/-
# MediaTransport.Net.Coverage -- which hosts an address stands for

An address of either family stands for one host or for several: the unspecified long
address for every host of both families, the unspecified short one for every short host.
A long address that embeds a short one stands for that.  Two sockets can share a port
only if no host is covered by both of their addresses (`conflicts`), and a socket gets
what is sent to a host that its address covers (`receives`).

Some hosts are groups, and some long addresses have a meaning on one link only, so that
they need an interface.
-/
import MediaTransport.Net.Address

namespace MediaTransport.Net

set_option autoImplicit false

namespace Host4

/-- Every host. -/
def unspecified : Host4 := ⟨0, 0, 0, 0⟩

/-- The host itself. -/
def loopback : Host4 := ⟨127, 0, 0, 1⟩

/-- Every host of the network. -/
def broadcast : Host4 := ⟨255, 255, 255, 255⟩

/-- Whether the address is that of a group of hosts. -/
def isGroup (h : Host4) : Bool :=
  h == broadcast || (224 ≤ h.a && h.a < 240)

end Host4

namespace Host6

/-- Every host. -/
def unspecified : Host6 := #v[0, 0, 0, 0, 0, 0, 0, 0]

/-- The host itself. -/
def loopback : Host6 := #v[0, 0, 0, 0, 0, 0, 0, 1]

/-- Whether the address is that of a group of hosts. -/
def isGroup (h : Host6) : Bool :=
  h[0] &&& 0xff00 == 0xff00

/-- Whether the address has a meaning on one interface or one link only. -/
def needsInterface (h : Host6) : Bool :=
  h[0] &&& 0xffc0 == 0xfe80 || h[0] &&& 0xff0f == 0xff01 || h[0] &&& 0xff0f == 0xff02

end Host6

/-- The hosts that an address stands for. -/
inductive Coverage where
  | every
  /-- A short host, or every short host. -/
  | short (host : Host4)
  | long (host : Host6)
  deriving DecidableEq, Repr

namespace Coverage

def isShort : Coverage → Bool
  | .short _ => true
  | _ => false

def isLong : Coverage → Bool
  | .long _ => true
  | _ => false

/-- Whether the address is that of a group. -/
def isGroup : Coverage → Bool
  | .every => false
  | .short h => h.isGroup
  | .long h => h.isGroup

/-- Whether every host of the second coverage belongs to the first. -/
def includes : Coverage → Coverage → Bool
  | .every, _ => true
  | .short a, .short b => a == .unspecified || a == b
  | .long a, .long b => a == b
  | _, _ => false

/-- Whether some host belongs to both. -/
def meets (a b : Coverage) : Bool :=
  a.includes b || b.includes a

end Coverage

namespace Address

/-- Number of the interface that the address names, zero for none. -/
def scope : Address → UInt32
  | .v4 .. => 0
  | .v6 _ scope _ => scope

/-- The address with another port. -/
def withPort : Address → UInt16 → Address
  | .v4 host _, port => .v4 host port
  | .v6 host scope _, port => .v6 host scope port

/-- Whether the address is of the short family. -/
def isShort : Address → Bool
  | .v4 .. => true
  | .v6 .. => false

/-- The unspecified address of the same family, with any port. -/
def unspecified : Address → Address
  | .v4 .. => .v4 .unspecified 0
  | .v6 .. => .v6 .unspecified 0 0

/-- The hosts that the address stands for. -/
def coverage : Address → Coverage
  | .v4 host _ => .short host
  | .v6 host _ _ =>
    if host = .unspecified then .every
    else
      match mapped? host with
      | some short => .short short
      | none => .long host

/-- Whether two sockets cannot be bound to the two addresses at once. -/
def conflicts (a b : Address) : Bool :=
  a.port == b.port && a.coverage.meets b.coverage

/-- Whether a socket that is bound to an address gets what is sent to another; an
unspecified target stands for the receiving host. -/
def receives (bound target : Address) : Bool :=
  bound.port == target.port && bound.coverage.meets target.coverage

/-- A target as a socket understands it: the unspecified long address is the host itself,
in the family of the hosts that the socket is bound to. -/
def seenFrom (target source : Address) : Address :=
  match target.coverage with
  | .every =>
    if source.coverage.isShort then .v4 .loopback target.port
    else .v6 .loopback 0 target.port
  | _ => target

end Address

end MediaTransport.Net
