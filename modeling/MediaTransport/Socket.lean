/-
# MediaTransport.Socket -- either kind of socket

The socket below a connector, as the configuration chooses it: datagrams or a connected
stream.
-/
import MediaTransport.Config
import MediaTransport.Socket.Datagram
import MediaTransport.Socket.Stream

namespace MediaTransport

set_option autoImplicit false

open Net (Address Fault)

/-- Either kind of socket. -/
inductive Socket where
  | datagram (socket : Socket.Datagram)
  | stream (socket : Socket.Stream)
  deriving DecidableEq

namespace Socket

/-- The socket of an interface, as it is when it has been bound or connected. -/
def ofInterface : Interface → Socket
  | .udp _ remote _ _ => .datagram { remote }
  | .tcp remote _ _ _ sendQueue => .stream (.start remote sendQueue)

def transport : Socket → Transport
  | .datagram _ => .udp
  | .stream _ => .tcp

/-- Where packets go that name no target, if anywhere. -/
def remote : Socket → Option Address
  | .datagram d => d.remote
  | .stream s => some s.peer

/-- Packets that wait for the writer of a stream. -/
def pending : Socket → Option Nat
  | .datagram _ => none
  | .stream s => some s.queue.items.length

/-- Whether the socket still knows its address. -/
def isBound : Socket → Bool
  | .datagram d => d.isOpen
  | .stream _ => true

/-- Whether the receive buffer can be sized. -/
def resizable : Socket → Except Fault Unit
  | .datagram d => d.resizable
  | .stream _ => .ok ()

/-- Sends a packet; `answer` is what the host says to a datagram for an address. -/
def send (socket : Socket) (bytes : Octets) (target : Option Address)
    (answer : Address → Except Fault Unit) : Except Connector.Error Delivery × Socket :=
  match socket with
  | .datagram d => (d.send target answer, socket)
  | .stream s => let (result, s) := s.send bytes; (result, .stream s)

def close : Socket → Socket
  | .datagram d => .datagram d.close
  | .stream s => .stream s.close

end Socket

end MediaTransport
