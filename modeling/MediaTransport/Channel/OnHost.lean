/-
# MediaTransport.Channel.OnHost -- channels on a host

Here the host gives the answers that a channel takes as inputs: it binds or connects the
socket, says where a datagram goes, hands over what has arrived and takes what a writer
writes.  A datagram is read whole; a read of a stream finds all octets that have arrived,
as many as the buffer holds.
-/
import MediaTransport.Channel
import MediaTransport.Net.Host

namespace MediaTransport.Channel

set_option autoImplicit false

open Net (Address Fault Host)

/-- Opens the socket of a stream as it is configured. -/
def openOn (host : Host) (config : Config) (protocol : Protocol) (records : Bool)
    (now : Tick) : Except Fault Channel × Host :=
  let (address, host) :=
    match config.interface protocol with
    | .udp listen _ _ _ => host.bind listen
    | .tcp remote listen _ _ _ => host.connect remote listen
  (address.map fun address => ofConfig config protocol address records now, host)

/-- A channel that is opened is the one that is configured, above the address it has got. -/
theorem exists_ofConfig_of_openOn {host : Host} {config : Config} {protocol : Protocol}
    {records : Bool} {now : Tick} {channel : Channel}
    (opened : (openOn host config protocol records now).1 = .ok channel) :
    ∃ address, channel = ofConfig config protocol address records now := by
  have named : ∀ {answer : Except Fault Address},
      (answer.map fun address => ofConfig config protocol address records now) = .ok channel →
      ∃ address, channel = ofConfig config protocol address records now := by
    intro answer mapped
    cases answer with
    | error fault => cases mapped
    | ok address =>
        cases mapped
        exact ⟨address, rfl⟩
  exact named opened

/-- The host after its socket was closed. -/
def releaseOn (host : Host) (c : Channel) : Host :=
  let near := c.connector.interface
  match c.socket with
  | .datagram _ => host.unbind near
  | .stream _ =>
    match host.link? near with
    | some link => host.setLink near link.shutDown
    | none => host

/-- The host after what a connector did. -/
def obeyOn (host : Host) (c : Channel) (actions : List Connector.Action) : Host :=
  if actions.contains .shut then c.releaseOn host else host

/-! ## Sending -/

/-- Sends a packet. -/
def sendOn (host : Host) (c : Channel) (now : Tick) (bytes : Octets)
    (target : Option Address) :
    Except Connector.Error Unit × Channel × Host × List Connector.Action :=
  let post := fun remote => host.send c.connector.interface remote bytes
  let (result, after, actions) := c.send now bytes target fun remote => (post remote).1
  let host :=
    match result, c.socket with
    | .ok (), .datagram d =>
      match d.destination target with
      | some remote => (post remote).2
      | none => host
    | _, _ => host
  (result, after, host, actions)

/-- Lets the writer take a number of steps. -/
def writeOn : Nat → Host → Channel → Channel × Host × List Socket.Stream.Event
  | 0, host, c => (c, host, [])
  | left + 1, host, c =>
    match c.socket with
    | .datagram _ => (c, host, [])
    | .stream s =>
      let near := c.connector.interface
      let (c, host, events) :=
        match s.writer, host.link? near with
        | .writing rest, some link =>
          let (accepted, link) := link.write rest
          let answer := match accepted with
            | .ok () => .accepted rest.length
            | .error fault => .failed fault
          let (_, c, events) := c.write answer
          (c, host.setLink near link, events)
        | _, _ => let (c, events) := c.fetch; (c, host, events)
      let (c, host, later) := writeOn left host c
      (c, host, events ++ later)

/-- Lets the writer run until it waits or has stopped: it takes at most two steps for
each packet, and one to find that there is none. -/
def settleOn (host : Host) (c : Channel) : Channel × Host × List Socket.Stream.Event :=
  writeOn (2 * c.socket.pending.getD 0 + 3) host c

/-! ## Receiving -/

/-- What the next read of the socket finds, if anything. -/
def readOn (host : Host) (c : Channel) : Option Arrival × Host :=
  let near := c.connector.interface
  match c.socket with
  | .datagram _ =>
    match host.letters near with
    | [] => (none, host)
    | letter :: rest =>
      (some (.packet letter.bytes none letter.source), host.setLetters near rest)
  | .stream s =>
    match host.link? near with
    | none => (none, host)
    | some link =>
      match link.read c.connector.pool.size with
      | (.nothing, _) => (none, host)
      | (.octets bytes, link) => (some (.packet bytes none s.peer), host.setLink near link)
      | (.failed fault, link) => (some (.failed fault), host.setLink near link)

/-- How many reads there may be before one finds nothing. -/
def backlog (host : Host) (c : Channel) : Nat :=
  let near := c.connector.interface
  match host.link? near with
  | some link => link.inbound.length + 2
  | none => (host.letters near).length + 1

/-- Goes on with a receive for a number of reads. -/
def pumpOn (now : Tick) :
    Nat → Host → Channel → Connector.Poll × Channel × Host × List Connector.Action
  | 0, host, c => (.pending, c, host, [])
  | left + 1, host, c =>
    match c.readOn host with
    | (none, host) => (.pending, c, host, [])
    | (some arrival, host) =>
      let (result, after, actions, _) := c.poll now [arrival]
      let host := c.obeyOn host actions
      match result with
      | .ready _ => (result, after, host, actions)
      | .pending =>
        let (result, c, host, more) := pumpOn now left host after
        (result, c, host, actions ++ more)

/-- Receives a packet; a receive that has to wait is given up. -/
def receiveOn (host : Host) (c : Channel) (now : Tick) :
    Connector.Poll × Channel × Host × List Connector.Action :=
  let (result, started, actions, _) := c.poll now []
  let host := c.obeyOn host actions
  match result with
  | .ready _ => (result, started, host, actions)
  | .pending =>
    let (result, c, host, more) := pumpOn now (started.backlog host) host started
    let connector := match result with
      | .pending => c.connector.cancel.2
      | .ready _ => c.connector
    (result, { c with connector }, host, actions ++ more)

/-- Closes the channel. -/
def closeOn (host : Host) (c : Channel) : Channel × Host × List Connector.Action :=
  let (after, actions) := c.close
  (after, c.obeyOn host actions, actions)

end MediaTransport.Channel
