/-
# MediaTransport.Channel -- a connector with its socket

A channel is what the configuration describes for one stream: a socket and the connector
above it, with a filter for the protocol and a pool whose buffers hold one octet more than
the largest packet.  What the connector asks of the socket is carried out here; what the
host does is still an input.
-/
import MediaTransport.Socket

namespace MediaTransport

set_option autoImplicit false

open Net (Address Fault)

/-- A connector with its socket. -/
structure Channel where
  connector : Connector
  socket : Socket

namespace Channel

/-- The pool of a stream. -/
def poolId : Protocol → PoolId
  | .rtp => 0
  | .rtcp => 1

/-- The channel of a stream, above a socket that has just been bound or connected to a
local address; `records` says whether a packet logger is attached. -/
def ofConfig (config : Config) (protocol : Protocol) (address : Address) (records : Bool)
    (now : Tick) : Channel where
  socket := .ofInterface (config.interface protocol)
  connector :=
    { protocol
      transport := (config.interface protocol).transport
      interface := address
      filter := some (Filter.start protocol config.minBackoff now)
      limiter := Limiter.start config.minBackoff now
      pool :=
        { id := poolId protocol
          size := (config.interface protocol).mtu + 1
          capacity := config.poolCapacity }
      records }

/-- The report of a new channel. -/
def ready (c : Channel) : Connector.Event :=
  .ready c.connector.protocol c.connector.interface c.connector.transport c.connector.mtu

/-- The socket after what a connector did. -/
def obey (actions : List Connector.Action) (socket : Socket) : Socket :=
  if actions.contains .shut then socket.close else socket

/-- Polls the receive under way, or a new one, on what the host hands over; also answers
what is left of that. -/
def poll (c : Channel) (now : Tick) (inbox : List Arrival) :
    Connector.Poll × Channel × List Connector.Action × List Arrival :=
  let polled := c.connector.poll now inbox
  (polled.result, ⟨polled.connector, obey polled.actions c.socket⟩, polled.actions,
    polled.inbox)

/-- Sends a packet.  A closed connector does not reach the socket. -/
def send (c : Channel) (now : Tick) (bytes : Octets) (target : Option Address)
    (answer : Address → Except Fault Unit) :
    Except Connector.Error Unit × Channel × List Connector.Action :=
  let (offered, socket) := c.socket.send bytes target answer
  let (result, connector, actions) := c.connector.send now bytes target offered
  (result, ⟨connector, if c.connector.closed then c.socket else socket⟩, actions)

def close (c : Channel) : Channel × List Connector.Action :=
  let (connector, actions) := c.connector.close
  (⟨connector, obey actions c.socket⟩, actions)

/-- Sizes the receive buffer of the socket. -/
def setReceiveBuffer (c : Channel) : Except Connector.Error Unit :=
  c.connector.setReceiveBuffer c.socket.resizable

/-! ## The writer of a stream -/

/-- Lets the writer look for a packet. -/
def fetch (c : Channel) : Channel × List Socket.Stream.Event :=
  match c.socket with
  | .datagram _ => (c, [])
  | .stream s => let (s, events) := s.fetch; ({ c with socket := .stream s }, events)

/-- Lets the writer write; also answers what the host has taken. -/
def write (c : Channel) (answer : Socket.WriteAnswer) :
    Octets × Channel × List Socket.Stream.Event :=
  match c.socket with
  | .datagram _ => ([], c, [])
  | .stream s =>
    let (taken, s, events) := s.write answer
    (taken, { c with socket := .stream s }, events)

end Channel

end MediaTransport
