/-
# MediaTransport.Net.Peer -- who a stream talks to

A peer of a stream is on the same host.  It is a datagram socket, a socket that listens
and accepts the connection of the stream, or an address where nobody listens.
-/
import MediaTransport.Net.Host
import MediaTransport.Streams

namespace MediaTransport.Net

set_option autoImplicit false

/-- The other side of a stream. -/
inductive Peer where
  | datagrams (address : Address)
  | listener (address : Address)
  | refusing (address : Address)
  deriving DecidableEq

namespace Peer

/-- What kinds of peers there are. -/
inductive Kind where
  | datagrams
  | listener
  | refusing
  deriving DecidableEq, Repr

def address : Peer → Address
  | .datagrams a => a
  | .listener a => a
  | .refusing a => a

/-- A new peer on some port of the host. -/
def create (host : Host) (kind : Kind) : Except Fault Peer × Host :=
  let anyPort := Address.v4 ⟨127, 0, 0, 1⟩ 0
  match kind with
  | .datagrams => let (a, host) := host.bind anyPort; (a.map .datagrams, host)
  | .listener => let (a, host) := host.listen anyPort; (a.map .listener, host)
  | .refusing => let (a, host) := host.settlePort anyPort; (.ok (.refusing a), host)

/-- A new peer, if one is wanted. -/
def create? (host : Host) : Option Kind → Except Fault (Option Peer) × Host
  | none => (.ok none, host)
  | some kind => let (peer, host) := create host kind; (peer.map some, host)

/-- New peers for both streams, where they are wanted. -/
def createAll (host : Host) (kinds : Streams (Option Kind)) :
    Except Fault (Streams (Option Peer)) × Host :=
  let (rtp, host) := create? host kinds.rtp
  let (rtcp, host) := create? host kinds.rtcp
  (rtp.bind fun rtp => rtcp.map fun rtcp => ⟨rtp, rtcp⟩, host)

/-- Sends octets to a socket of a stream, which for a connection is its near end; `none`
if the peer has no way to it. -/
def send (host : Host) (peer : Peer) (near : Address) (bytes : Octets) : Option Host :=
  match peer with
  | .datagrams a =>
    match host.send a near bytes with
    | (.ok (), host) => some host
    | (.error _, _) => none
  | .listener _ =>
    match host.link? near with
    | some link =>
      if link.farEnd = .present then some (host.setLink near (link.farWrite bytes)) else none
    | none => none
  | .refusing _ => none

/-- Closes what the peer holds open; nobody listens at its address any more. -/
def close (host : Host) (peer : Peer) (near : Address) : Peer × Host :=
  let host :=
    match peer with
    | .datagrams a => host.unbind a
    | .listener _ =>
      match host.link? near with
      | some link => host.setLink near link.farClose
      | none => host
    | .refusing _ => host
  (.refusing peer.address, host)

/-- What a peer finds when it looks for something to read. -/
inductive Found where
  | nothing
  | datagram (letter : Letter)
  /-- All octets there are, with whether the stream has ended. -/
  | octets (bytes : Octets) (ended : Bool)
  /-- There is nobody to read. -/
  | nobody
  deriving DecidableEq

/-- Reads what the stream has sent. -/
def receive (host : Host) (peer : Peer) (near : Address) : Found × Host :=
  match peer with
  | .datagrams a =>
    match host.letters a with
    | letter :: rest => (.datagram letter, host.setLetters a rest)
    | [] => (.nothing, host)
  | .listener _ =>
    match host.link? near with
    | some link =>
      let (bytes, ended, link) := link.farRead
      (.octets bytes ended, host.setLink near link)
    | none => (.nobody, host)
  | .refusing _ => (.nobody, host)

end Peer

end MediaTransport.Net
