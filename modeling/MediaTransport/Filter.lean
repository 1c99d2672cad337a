/-
# MediaTransport.Filter -- the input filter of a stream

A stream expects packets of one protocol.  Every other packet is counted, a
well-formed one of the other protocol apart from a malformed one, and at most one
warning per backoff interval is written, so that a misbehaving sender cannot flood
the log.  A warning shows the counters with the present packet included.
-/
import MediaTransport.Packet.Class
import MediaTransport.Limiter
import MediaTransport.Log

namespace MediaTransport

set_option autoImplicit false

/-- The input filter of a stream. -/
structure Filter where
  wanted : Protocol
  limiter : Limiter
  /-- Well-formed packets of the other protocol. -/
  mismatched : UInt64 := 0
  /-- Packets of no protocol. -/
  rejected : UInt64 := 0
  deriving DecidableEq, Repr

namespace Filter

/-- The report of a dropped packet. -/
structure Warning where
  expected : Protocol
  found : Packet.Class
  size : Nat
  mismatched : UInt64
  rejected : UInt64
  deriving DecidableEq, Repr

def Warning.entry (w : Warning) : Log.Entry where
  level := .warn
  text :=
    Log.detailed "dropping packet"
      [("expected", w.expected.name), ("classified", w.found.text), ("size", toString w.size),
        ("mismatched", toString w.mismatched), ("rejected", toString w.rejected)]

/-- A filter that has seen no packet. -/
def start (wanted : Protocol) (backoff : Nat) (now : Tick) : Filter where
  wanted := wanted
  limiter := Limiter.start backoff now

/-- Counts a dropped packet under its class. -/
def count (f : Filter) : Packet.Class → Filter
  | .rejected _ => { f with rejected := f.rejected + 1 }
  | _ => { f with mismatched := f.mismatched + 1 }

/-- Judges one packet: whether it belongs on the stream, the filter afterwards and
the warning, if one is due. -/
def accept (f : Filter) (now : Tick) (bytes : Octets) : Bool × Filter × Option Warning :=
  let found := Packet.classify bytes
  match found, f.wanted with
  | .rtcp, .rtcp | .rtp, .rtp => (true, f, none)
  | _, _ =>
    let counted := f.count found
    let (permitted, limiter) := counted.limiter.shouldRun now
    let after := { counted with limiter := limiter }
    let warning : Warning :=
      ⟨f.wanted, found, bytes.length, counted.mismatched, counted.rejected⟩
    (false, after, if permitted then some warning else none)

end Filter

end MediaTransport
