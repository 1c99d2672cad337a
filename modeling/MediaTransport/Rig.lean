/-
# MediaTransport.Rig -- the two channels of a session on a host with their peers

A rig binds both channels as a configuration says and then uses them by hand, one
operation after the other: sending, receiving, closing, and the same for the peers.  At
least eight milliseconds pass between two operations.  After each of them the writers of
the streams run until they have nothing to do.

Packets that were received are kept under names until they are given back.
-/
import MediaTransport.Channel.OnHost
import MediaTransport.Net.Peer
import MediaTransport.Streams

namespace MediaTransport

set_option autoImplicit false

open Net (Address Fault Host Peer)

/-- The channels of a session on a host with their peers. -/
structure Rig where
  host : Host
  channels : Streams Channel
  peers : Streams (Option Peer)
  /-- What packets are logged by, if they are. -/
  logger : Option PacketLog.Logger
  now : Tick := 0
  /-- The packets that were received, by name, each name once. -/
  held : List (String × Received) := []

namespace Rig

/-- Binds both channels; the second only if the first succeeds. -/
def bind (host : Host) (config : Config) (peers : Streams (Option Peer))
    (logger : Option PacketLog.Logger) : Except Fault Rig :=
  let records := logger.isSome
  let (rtp, host) := Channel.openOn host config .rtp records 0
  match rtp with
  | .error fault => .error fault
  | .ok rtp =>
    let (rtcp, host) := Channel.openOn host config .rtcp records 0
    rtcp.map fun rtcp => { host, channels := ⟨rtp, rtcp⟩, peers, logger }

/-- What the log gets to see of new channels. -/
def announcement (r : Rig) : List Log.Entry :=
  [r.channels.rtp.ready.entry, r.channels.rtcp.ready.entry]

/-- Where a packet may be sent. -/
inductive Target where
  | channel (protocol : Protocol)
  | peer (protocol : Protocol)
  deriving DecidableEq, Repr

/-- One operation on a stream or on its peer. -/
inductive Op where
  /-- Sends packets, all of them before the writer runs. -/
  | send (packets : List Octets) (target : Option Target)
  /-- Receives a packet, which is kept under a name, or gives up if there is none. -/
  | receive (name : String)
  | inspect (name : String)
  | recycle (name : String)
  | setReceiveBuffer
  | describe
  | close
  /-- Marks the connector as closed from outside. -/
  | markClosed
  | closeBoth
  | peerSend (packets : List Octets)
  | peerReceive
  | peerClose
  deriving DecidableEq, Repr

/-- What an operation answers. -/
inductive Answer where
  | done
  /-- The result for each packet, and how many wait for the writer. -/
  | sent (results : List (Except Connector.Error Unit)) (pending : Option Nat)
  | pending
  | received (packet : Received)
  | validity (invalid : Bool)
  | sized
  | described (channel : Channel)
  | found (what : Peer.Found)
  | failed (error : Connector.Error)

/-- The address that a target stands for. -/
def address? (r : Rig) : Target → Option Address
  | .channel protocol => some (r.channels.get protocol).connector.interface
  | .peer protocol => (r.peers.get protocol).map Peer.address

/-- The lines of what a connector did. -/
def lines (r : Rig) (actions : List Connector.Action) : List Log.Entry :=
  actions.flatMap fun action => action.entries (r.logger.getD .silent)

def setChannel (r : Rig) (protocol : Protocol) (host : Host) (channel : Channel) : Rig :=
  { r with host, channels := r.channels.set protocol channel }

/-- Sends packets one after the other. -/
def sendAll (protocol : Protocol) (target : Option Address) :
    List Octets → Rig → List (Except Connector.Error Unit) × Rig × List Log.Entry
  | [], r => ([], r, [])
  | packet :: rest, r =>
    let (result, channel, host, actions) :=
      (r.channels.get protocol).sendOn r.host r.now packet target
    let (results, r, later) :=
      sendAll protocol target rest (r.setChannel protocol host channel)
    (result :: results, r, r.lines actions ++ later)

/-- Closes one channel. -/
def closeChannel (r : Rig) (protocol : Protocol) : Rig × List Log.Entry :=
  let (channel, host, actions) := (r.channels.get protocol).closeOn r.host
  (r.setChannel protocol host channel, r.lines actions)

/-- Lets the writer of a stream run. -/
def settle (r : Rig) (protocol : Protocol) : Rig × List Log.Entry :=
  let (channel, host, events) := (r.channels.get protocol).settleOn r.host
  (r.setChannel protocol host channel, events.map Socket.Stream.Event.entry)

/-- Whether a packet is invalid: the pool of its buffer is closed. -/
def invalidates (r : Rig) (loan : Loan) : Bool :=
  r.channels.rtp.connector.invalidates loan || r.channels.rtcp.connector.invalidates loan

def release (r : Rig) (name : String) : Rig :=
  { r with held := r.held.filter fun entry => entry.1 != name }

def hold (r : Rig) (name : String) (packet : Received) : Rig :=
  { r with held := (name, packet) :: (r.release name).held }

/-- Sends what a peer sends; `none` if it cannot. -/
def peerSendAll (peer : Peer) (near : Address) : List Octets → Host → Option Host
  | [], host => some host
  | packet :: rest, host => (peer.send host near packet).bind (peerSendAll peer near rest)

/-- Carries out an operation on a stream, without what follows it; `none` if it cannot
be carried out: a packet is not held, or a peer that sends has no way to the stream. -/
def act (r : Rig) (protocol : Protocol) : Op → Option (Answer × Rig × List Log.Entry)
  | .send packets target =>
    let (results, r, lines) := sendAll protocol (target.bind r.address?) packets r
    some (.sent results (r.channels.get protocol).socket.pending, r, lines)
  | .receive name =>
    let (result, channel, host, actions) :=
      (r.channels.get protocol).receiveOn r.host r.now
    let r := r.setChannel protocol host channel
    match result with
    | .pending => some (.pending, r, r.lines actions)
    | .ready (.error e) => some (.failed e, r, r.lines actions)
    | .ready (.ok packet) => some (.received packet, r.hold name packet, r.lines actions)
  | .inspect name =>
    (r.held.lookup name).map fun packet => (.validity (r.invalidates packet.loan), r, [])
  | .recycle name =>
    (r.held.lookup name).map fun packet =>
      let channel := r.channels.get protocol
      let connector := channel.connector.recycle packet.loan
      (.done, (r.release name).setChannel protocol r.host { channel with connector }, [])
  | .setReceiveBuffer =>
    match (r.channels.get protocol).setReceiveBuffer with
    | .ok () => some (.sized, r, [])
    | .error e => some (.failed e, r, [])
  | .describe => some (.described (r.channels.get protocol), r, [])
  | .close => let (r, lines) := r.closeChannel protocol; some (.done, r, lines)
  | .markClosed =>
    let channel := r.channels.get protocol
    let connector := channel.connector.markClosed
    some (.done, r.setChannel protocol r.host { channel with connector }, [])
  | .closeBoth =>
    let (r, first) := r.closeChannel .rtp
    let (r, second) := r.closeChannel .rtcp
    some (.done, r, first ++ second)
  | .peerSend packets =>
    let near := (r.channels.get protocol).connector.interface
    (r.peers.get protocol).bind fun peer =>
      (peerSendAll peer near packets r.host).map fun host => (.done, { r with host }, [])
  | .peerReceive =>
    let near := (r.channels.get protocol).connector.interface
    match r.peers.get protocol with
    | none => some (.found .nobody, r, [])
    | some peer =>
      let (found, host) := peer.receive r.host near
      some (.found found, { r with host }, [])
  | .peerClose =>
    let near := (r.channels.get protocol).connector.interface
    match r.peers.get protocol with
    | none => some (.done, r, [])
    | some peer =>
      let (gone, host) := peer.close r.host near
      some (.done, { r with host, peers := r.peers.set protocol (some gone) }, [])

/-- Milliseconds that pass with every operation. -/
def pace : Tick := 8

/-- Lets the writers of both streams run. -/
def settleBoth (r : Rig) : Rig × List Log.Entry :=
  let (r, first) := r.settle .rtp
  let (r, second) := r.settle .rtcp
  (r, first ++ second)

/-- Carries out an operation and lets the writers run. -/
def step (r : Rig) (protocol : Protocol) (op : Op) :
    Option (Answer × Rig × List Log.Entry) :=
  match { r with now := r.now + pace }.act protocol op with
  | none => none
  | some (answer, r, lines) =>
    let (r, later) := r.settleBoth
    some (answer, r, lines ++ later)

end Rig

end MediaTransport
