/-
# MediaTransport.Limiter -- at most one report per backoff interval

A limiter gates a repeated action, as a rule the report of a fault.  Its clock
counts milliseconds in 32 bits and wraps around; elapsed time is the wrapped
difference, so a wrap never silences the action for good.  There is no burst
capacity and nothing is queued.

A call reads the clock, tests the reading against the instant of the last permit
(`expired`) and then takes the permit if that instant is still the one it tested
(`claim`).  `shouldRun` is the three steps without interruption.
-/

namespace MediaTransport

set_option autoImplicit false

/-- Milliseconds on a clock that wraps around. -/
abbrev Tick := UInt32

/-- The gate of one repeated action. -/
structure Limiter where
  /-- Milliseconds that have to pass between two permits. -/
  backoff : UInt32
  /-- The reading of the clock at the last permit. -/
  last : Tick
  deriving DecidableEq, Repr

namespace Limiter

/-- The longest backoff the gate can keep, in milliseconds. -/
def maxBackoff : Nat := 4294967294

/-- The spacing of reports where none is configured, in milliseconds. -/
def defaultBackoff : Nat := 10000

/-- Whole milliseconds of a duration in seconds and nanoseconds. -/
def milliseconds (seconds nanoseconds : Nat) : Nat :=
  seconds * 1000 + nanoseconds / 1000000

/-- A gate that is open: the last permit is dated one tick further back than the
backoff. -/
def start (backoff : Nat) (now : Tick) : Limiter :=
  let kept := UInt32.ofNat (min backoff maxBackoff)
  { backoff := kept, last := now - (kept + 1) }

/-- Whether more than the backoff has passed between two readings. -/
def expired (backoff : UInt32) (now last : Tick) : Bool :=
  backoff < now - last

/-- Takes the permit for a reading, unless another caller has taken one since
`seen` was read. -/
def claim (l : Limiter) (seen now : Tick) : Bool × Limiter :=
  if l.last = seen then (true, { l with last := now }) else (false, l)

/-- Asks for a permit. -/
def shouldRun (l : Limiter) (now : Tick) : Bool × Limiter :=
  if expired l.backoff now l.last then l.claim l.last now else (false, l)

/-- Lets the clock advance a number of times and asks after each advance; the
answer holds the indices of the permitted calls. -/
def ticks (l : Limiter) (now step : Tick) (count : Nat) : List Nat × Limiter × Tick :=
  go l now 0 [] count
where
  go (l : Limiter) (now : Tick) (index : Nat) (permits : List Nat) :
      Nat → List Nat × Limiter × Tick
    | 0 => (permits.reverse, l, now)
    | left + 1 =>
      let now := now + step
      let (permitted, l) := l.shouldRun now
      go l now (index + 1) (if permitted then index :: permits else permits) left

end Limiter

end MediaTransport
