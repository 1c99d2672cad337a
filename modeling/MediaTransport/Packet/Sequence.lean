/-
# MediaTransport.Packet.Sequence -- the circular order of sequence numbers

Sequence numbers are 16 bits wide and wrap around, so of two numbers that one is
later which lies less than half the number space ahead of the other.  The
relation orders every window of at most 32767 numbers; over a wider one it is
not transitive, and at distance 32768 exactly the smaller number counts as the
later one.
-/

namespace MediaTransport.Packet.Sequence

set_option autoImplicit false

/-- Half of the number space. -/
def halfSpace : Nat := 32768

/-- Orders two sequence numbers by which is ahead of the other. -/
def compare (a b : UInt16) : Ordering :=
  if a = b then .eq
  else if b < a then
    if a.toNat - b.toNat < halfSpace then .gt else .lt
  else
    if b.toNat - a.toNat < halfSpace then .lt else .gt

/-- Whether the first number comes strictly after the second. -/
def isAfter (a b : UInt16) : Bool :=
  compare a b == .gt

/-- How many steps forward, modulo the number space, lead from one to the other. -/
def distance (start stop : UInt16) : UInt16 :=
  stop - start

/-- The numbers in the order of `compare`. -/
def sort (numbers : List UInt16) : List UInt16 :=
  numbers.mergeSort fun a b => compare a b != .gt

end MediaTransport.Packet.Sequence
