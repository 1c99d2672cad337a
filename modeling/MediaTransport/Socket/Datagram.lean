/-
# MediaTransport.Socket.Datagram -- the socket of a datagram stream

One bound socket serves both directions.  A packet goes to the target that it names, or
else to the remote that the socket was set up with.  Closing empties the slot, and the
address is free again.
-/
import MediaTransport.Connector

namespace MediaTransport.Socket

set_option autoImplicit false

open Net (Address Fault)

/-- The socket of a datagram stream. -/
structure Datagram where
  /-- Where packets go that name no target. -/
  remote : Option Address
  isOpen : Bool := true
  deriving DecidableEq

namespace Datagram

/-- Where a packet goes: the target comes before the remote. -/
def destination (d : Datagram) (target : Option Address) : Option Address :=
  target.orElse fun _ => d.remote

/-- Sends a packet; `answer` is what the host says to a packet for an address. -/
def send (d : Datagram) (target : Option Address) (answer : Address → Except Fault Unit) :
    Except Connector.Error Delivery :=
  match d.destination target with
  | none => .error .noTarget
  | some remote =>
    if d.isOpen then
      match answer remote with
      | .ok () => .ok { remote }
      | .error fault => .error (.io fault)
    else .error .closed

/-- Whether the receive buffer can be sized. -/
def resizable (d : Datagram) : Except Fault Unit :=
  if d.isOpen then .ok () else .error .notConnected

def close (d : Datagram) : Datagram :=
  { d with isOpen := false }

end Datagram

end MediaTransport.Socket
