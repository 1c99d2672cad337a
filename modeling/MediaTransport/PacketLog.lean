/-
# MediaTransport.PacketLog -- recording the packets that cross a connector

A `Record` describes one packet that was sent or received.  Two loggers are built in:
one writes a trace line for every record, which makes sense only while trace lines are
written at all, and one writes nothing.  `select` picks the logger as any strategy is
picked; the logger that writes nothing can always be built, so a selection that ends
with it succeeds.
-/
import MediaTransport.Packet.Class
import MediaTransport.Net.Address
import MediaTransport.Strategy

namespace MediaTransport

set_option autoImplicit false

/-- The kind of socket below a stream. -/
inductive Transport where
  | udp
  | tcp
  deriving DecidableEq, Repr

def Transport.name : Transport → String
  | .udp => "udp"
  | .tcp => "tcp"

namespace PacketLog

/-- One packet that crossed a connector. -/
structure Record where
  protocol : Protocol
  /-- The address of this end. -/
  interface : Net.Address
  remote : Net.Address
  transport : Transport
  outbound : Bool
  bytes : Octets
  deriving DecidableEq

/-- The trace line of a packet. -/
def Record.entry (r : Record) : Log.Entry where
  level := .trace
  text :=
    let direction := if r.outbound then "send" else "recv"
    Log.detailed (direction ++ " packet")
      [("protocol", r.protocol.name), ("local", r.interface.text), ("remote", r.remote.text),
        ("transport", r.transport.name), ("size", toString r.bytes.length)]

/-- The built-in loggers. -/
inductive Logger where
  /-- Writes a trace line for every packet. -/
  | lines
  /-- Writes nothing. -/
  | silent
  deriving DecidableEq, Repr

/-- What a logger writes for a packet. -/
def Logger.entries : Logger → Record → List Log.Entry
  | .lines, record => [record.entry]
  | .silent, _ => []

/-- The names of the built-in loggers, in the order in which they are tried. -/
def fallbacks : List String :=
  ["log", "null"]

/-- The built-in loggers; the one that writes lines needs the trace level. -/
def registry (limit : Log.Threshold) : Strategy.Registry Logger :=
  (Strategy.Registry.register [] "log"
      { build := fun _ =>
          if limit.enables .trace then .ok .lines
          else .error "trace level logging is disabled" }).register
    "null" { build := fun _ => .ok .silent }

/-- Picks the logger, trying the override before the built-in ones. -/
def select (limit : Log.Threshold) (choice : Option String) : Strategy.Selection Logger :=
  Strategy.select (registry limit) choice fallbacks

end PacketLog

end MediaTransport
