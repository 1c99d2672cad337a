/-
# MediaTransport.Session.Loop -- taking packet after packet from a channel

A loop receives from one channel, hands every packet to its handler and gives the buffer
back.  The first receive that fails ends it, in an orderly way if the transport was
closed.  Between two arrivals its receive is always under way, so a history of a loop is
the list of its arrivals (`Loop.run`).
-/
import MediaTransport.Channel
import MediaTransport.Dispatch

namespace MediaTransport.Session

set_option autoImplicit false

open Net (Address)

/-- What the loops of a session report. -/
inductive Note where
  /-- A media packet that does not come after the latest one. -/
  | outOfOrder (sequence highest : UInt16) (source : Address)
  | feedback (event : Dispatch.Event)
  | listenerFailed (source : Address) (cause : String)
  | ended (protocol : Protocol) (counts : Counts)

def Note.entry : Note → Log.Entry
  | .outOfOrder sequence highest source =>
    ⟨.debug, Log.detailed "rtp packet out of order"
      [("seq", toString sequence), ("highest", toString highest), ("addr", source.text)]⟩
  | .feedback event =>
    ⟨.info, Log.detailed "rtcp feedback"
      [("source", toString event.source), ("fmt", toString event.format),
        ("type", event.kind.name)]⟩
  | .listenerFailed source cause =>
    ⟨.warn, Log.detailed "rtcp feedback listener failed"
      [("addr", source.text), ("err", cause)]⟩
  | .ended protocol counts =>
    ⟨.info, Log.detailed (protocol.name ++ " stream closed") [("counts", counts.text)]⟩

/-- What happens in a loop. -/
inductive Happening where
  | acted (action : Connector.Action)
  | noted (note : Note)

/-- What the log gets to see of a happening under a packet logger. -/
def Happening.entries (logger : PacketLog.Logger) : Happening → List Log.Entry
  | .acted action => action.entries logger
  | .noted note => [note.entry]

/-- What is done with the octets of a packet and its source. -/
abbrev Handler (σ : Type) := σ → Octets → Address → σ × List Note

/-- A task that takes packet after packet from a channel. -/
structure Loop (σ : Type) where
  channel : Channel
  /-- What the handler keeps from packet to packet. -/
  state : σ
  /-- How the loop ended, once it has. -/
  outcome : Option (Except Connector.Error Unit) := none

namespace Loop

variable {σ : Type}

/-- Ends the loop after a receive that failed. -/
def finish (l : Loop σ) (error : Connector.Error) : Loop σ × List Happening :=
  let connector := l.channel.connector
  match error with
  | .closed =>
    ({ l with outcome := some (.ok ()) },
      [.noted (.ended connector.protocol connector.counts)])
  | other => ({ l with outcome := some (.error other) }, [])

/-- Handles a packet and gives its buffer back. -/
def handle (handler : Handler σ) (l : Loop σ) (packet : Received) :
    Loop σ × List Happening :=
  let (state, notes) := handler l.state packet.loan.window.bytes packet.source
  let connector := l.channel.connector.recycle packet.loan
  ({ l with state, channel := { l.channel with connector } }, notes.map .noted)

/-- Polls the receive of a loop that has not ended, after starting it if there is none
under way. -/
def advance (handler : Handler σ) (now : Tick) (inbox : List Arrival) (l : Loop σ) :
    Loop σ × List Happening :=
  match l.outcome with
  | some _ => (l, [])
  | none =>
    let (result, channel, actions, _) := l.channel.poll now inbox
    let l := { l with channel }
    let (l, more) :=
      match result with
      | .pending => (l, [])
      | .ready (.error e) => l.finish e
      | .ready (.ok packet) => l.handle handler packet
    (l, actions.map .acted ++ more)

/-- Takes one arrival and waits for the next one. -/
def feed (handler : Handler σ) (now : Tick) (arrival : Arrival) (l : Loop σ) :
    Loop σ × List Happening :=
  let (l, first) := l.advance handler now [arrival]
  let (l, second) := l.advance handler now []
  (l, first ++ second)

/-- A loop that waits for its first packet. -/
def start (handler : Handler σ) (now : Tick) (channel : Channel) (state : σ) :
    Loop σ × List Happening :=
  advance handler now [] { channel, state }

/-- Takes arrivals, each at its instant. -/
def run (handler : Handler σ) : List (Tick × Arrival) → Loop σ → Loop σ × List Happening
  | [], l => (l, [])
  | (now, arrival) :: rest, l =>
    let (l, first) := l.feed handler now arrival
    let (l, later) := run handler rest l
    (l, first ++ later)

end Loop

end MediaTransport.Session
