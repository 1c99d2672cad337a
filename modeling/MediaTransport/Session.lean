/-
# MediaTransport.Session -- both streams at work

A session picks its packet logger, binds both channels and runs a loop on each of them.
It ends with the loop that ends first; the other is given up and its socket is dropped.
The session is followed on a host with peers, which send and close; after every such
event both loops take what has arrived.
-/
import MediaTransport.Channel.OnHost
import MediaTransport.Net.Peer
import MediaTransport.Session.Control
import MediaTransport.Session.Media
import MediaTransport.Streams

namespace MediaTransport

set_option autoImplicit false

open Net (Address Fault Host Peer)

/-- Both streams at work on a host. -/
structure Session where
  host : Host
  peers : Streams (Option Peer)
  logger : PacketLog.Logger
  media : Session.Loop Session.Media.Highest
  control : Session.Loop Dispatch.Hub
  now : Tick := 0
  /-- How the session ended, once it has. -/
  outcome : Option (Except Connector.Error Unit) := none

namespace Session

/-- Why a session did not start or ended before its streams did. -/
inductive Failure where
  | noLogger (cause : Strategy.Unavailable)
  /-- A stream failed; at the start the media stream may have had its address already. -/
  | transport (error : Connector.Error) (media : Option Address)
  deriving DecidableEq

/-- A session, or why it did not start. -/
abbrev Start := Except Failure Session

/-! ## Loops on a host -/

/-- Lets the writer of the channel of a loop run. -/
def Loop.settleOn {σ : Type} (host : Host) (l : Loop σ) : Loop σ × Host × List Log.Entry :=
  let (channel, host, events) := l.channel.settleOn host
  ({ l with channel }, host, events.map Socket.Stream.Event.entry)

/-- Drops the socket of a channel whose loop was given up: its writer stops. -/
def Loop.dropOn {σ : Type} (host : Host) (l : Loop σ) : Loop σ × Host × List Log.Entry :=
  let host := l.channel.releaseOn host
  Loop.settleOn host { l with channel.socket := l.channel.socket.close }

/-- Takes what has arrived at the channel, in a number of reads. -/
def Loop.takeOn {σ : Type} (handler : Handler σ) (now : Tick) :
    Nat → Host → Loop σ → Loop σ × Host × List Happening
  | 0, host, l => (l, host, [])
  | left + 1, host, l =>
    match l.outcome, l.channel.readOn host with
    | none, (some arrival, host) =>
      let (next, first) := l.feed handler now arrival
      let actions := first.filterMap fun
        | .acted action => some action
        | .noted _ => none
      let (next, host, later) :=
        Loop.takeOn handler now left (l.channel.obeyOn host actions) next
      (next, host, first ++ later)
    | _, _ => (l, host, [])

/-! ## Running -/

/-- The lines of what happened in a loop. -/
def lines (s : Session) (happenings : List Happening) : List Log.Entry :=
  happenings.flatMap fun h => h.entries s.logger

/-- Lets both loops take what has arrived, and ends the session if one of them has
ended: first its own writer stops, then the other one. -/
def settle (s : Session) : Session × List Log.Entry :=
  let (media, host, first) :=
    s.media.takeOn Media.handler s.now (s.media.channel.backlog s.host) s.host
  let (control, host, second) :=
    if media.outcome.isSome then (s.control, host, [])
    else s.control.takeOn Control.handler s.now (s.control.channel.backlog host) host
  let taken := s.lines first ++ s.lines second
  if media.outcome.isSome then
    let (media, host, own) := media.settleOn host
    let (control, host, other) := control.dropOn host
    ({ s with host, media, control, outcome := media.outcome }, taken ++ own ++ other)
  else if control.outcome.isSome then
    let (control, host, own) := control.settleOn host
    let (media, host, other) := media.dropOn host
    ({ s with host, media, control, outcome := control.outcome }, taken ++ own ++ other)
  else
    let (media, host, own) := media.settleOn host
    let (control, host, other) := control.settleOn host
    ({ s with host, media, control }, taken ++ own ++ other)

/-- Starts a session on a host with peers; `limit` says which lines are written, on which
the packet logger depends. -/
def start (host : Host) (peers : Streams (Option Peer)) (config : Config)
    (limit : Log.Threshold) : Start × List Log.Entry :=
  let selection := PacketLog.select limit config.packetLogger
  let chosen := selection.events.map Strategy.Event.entry
  match selection.result with
  | .error cause => (.error (.noLogger cause), chosen)
  | .ok selected =>
    let (rtp, host) := Channel.openOn host config .rtp true 0
    match rtp with
    | .error fault => (.error (.transport (.io fault) none), chosen)
    | .ok rtp =>
      let chosen := chosen ++ [rtp.ready.entry]
      let (rtcp, host) := Channel.openOn host config .rtcp true 0
      match rtcp with
      | .error fault =>
        let unused : Loop Media.Highest := { channel := rtp, state := none }
        let (_, _, dropped) := unused.dropOn host
        (.error (.transport (.io fault) rtp.connector.interface), chosen ++ dropped)
      | .ok rtcp =>
        let (media, first) := Loop.start Media.handler 0 rtp none
        let (control, second) := Loop.start Control.handler 0 rtcp Control.hub
        let s : Session := { host, peers, logger := selected.value, media, control }
        (.ok s, chosen ++ [rtcp.ready.entry] ++ s.lines (first ++ second))

/-- What a peer does. -/
inductive Op where
  | send (bytes : Octets)
  | close
  deriving DecidableEq, Repr

/-- The local address of a stream. -/
def near (s : Session) : Protocol → Address
  | .rtp => s.media.channel.connector.interface
  | .rtcp => s.control.channel.connector.interface

/-- Milliseconds that pass with every operation. -/
def pace : Tick := 8

/-- Follows a session through what a peer does; `none` if the peer sends and has no way
to the stream, as none has while there is no session. -/
def follow (start : Start) (protocol : Protocol) (op : Op) : Option (Start × List Log.Entry) :=
  match start, op with
  | .error _, .send _ => none
  | .error _, .close => some (start, [])
  | .ok s, .send bytes =>
    (s.peers.get protocol).bind fun peer =>
      (peer.send s.host (s.near protocol) bytes).map fun host =>
        let (s, lines) := settle { s with host, now := s.now + pace }
        (.ok s, lines)
  | .ok s, .close =>
    match s.peers.get protocol with
    | none => some (start, [])
    | some peer =>
      let (gone, host) := peer.close s.host (s.near protocol)
      let peers := s.peers.set protocol (some gone)
      let (s, lines) := settle { s with host, peers, now := s.now + pace }
      some (.ok s, lines)

/-- How a session has ended, or that it did not start; `none` while it runs. -/
def ending : Start → Option (Except Failure Unit)
  | .error failure => some (.error failure)
  | .ok s => s.outcome.map fun result => result.mapError fun error => .transport error none

end Session

end MediaTransport
