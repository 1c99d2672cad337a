/-
# MediaTransport.Socket.Stream -- the socket of a connected stream

Reading happens on the caller's side, one read for each receive and without framing.
What is sent is put into a bounded queue, from which a writer of its own takes packet
after packet and writes it, in as many pieces as the host accepts.  So a slow peer never
stalls the sender.

The writer moves in two kinds of steps: `fetch` takes the next packet, `write` hands
octets of the packet under way to the host, whose answer is an input.  A write that
fails closes the queue and stops the writer; a writer that finds the queue closed stops
as well.
-/
import MediaTransport.Connector
import MediaTransport.SendQueue

namespace MediaTransport.Socket

set_option autoImplicit false

open Net (Address Fault)

/-- What the writer of a stream is at. -/
inductive Writer where
  /-- Waiting for a packet. -/
  | waiting
  /-- Writing a packet of which some octets are left. -/
  | writing (rest : Octets)
  | stopped
  deriving DecidableEq, Repr

/-- A writer that goes on with what is left of a packet. -/
def Writer.after (rest : Octets) : Writer :=
  if rest.isEmpty then .waiting else .writing rest

/-- The socket of a connected stream. -/
structure Stream where
  peer : Address
  queue : SendQueue
  writer : Writer := .waiting
  deriving DecidableEq

/-- What the host answers to a write. -/
inductive WriteAnswer where
  | accepted (count : Nat)
  | wouldBlock
  | failed (fault : Fault)
  deriving DecidableEq, Repr

namespace Stream

/-- What a writer reports. -/
inductive Event where
  | writeFailed (peer : Address) (fault : Fault)
  | writerStopped (peer : Address)
  deriving DecidableEq

def Event.entry : Event → Log.Entry
  | .writeFailed peer fault =>
    ⟨.warn, Log.detailed "tcp socket write failed"
      [("addr", peer.text), ("err", fault.description)]⟩
  | .writerStopped peer =>
    ⟨.debug, Log.detailed "tcp socket writer stopped" [("addr", peer.text)]⟩

/-- A socket that has just been connected, with an empty queue. -/
def start (peer : Address) (capacity : Nat) : Stream where
  peer := peer
  queue := .start capacity

/-- Sends a packet: puts it into the queue.  A stream reaches its peer only, so there
is no target. -/
def send (s : Stream) (bytes : Octets) : Except Connector.Error Delivery × Stream :=
  if s.queue.closed then (.error .closed, s)
  else
    let (dropped, queue) := s.queue.push bytes
    (.ok { remote := s.peer, dropped }, { s with queue })

/-- Closes the queue; the writer notices by itself. -/
def close (s : Stream) : Stream :=
  { s with queue := s.queue.close }

/-! ## The writer -/

/-- The name under which the writer waits for packets. -/
def writerName : String := "writer"

/-- Looks for the next packet, unless the writer is at one or has stopped. -/
def fetch (s : Stream) : Stream × List Event :=
  match s.writer with
  | .waiting =>
    match s.queue.poll writerName with
    | (.pending, queue) => ({ s with queue }, [])
    | (.ready none, queue) =>
      ({ s with queue, writer := .stopped }, [.writerStopped s.peer])
    | (.ready (some packet), queue) => ({ s with queue, writer := Writer.after packet }, [])
  | _ => (s, [])

/-- Gives up after a write that failed. -/
def giveUp (s : Stream) (fault : Fault) : Stream × List Event :=
  ({ s with queue := s.queue.close, writer := .stopped },
    [.writeFailed s.peer fault, .writerStopped s.peer])

/-- Writes octets of the packet under way; also answers those that the host has taken.
A host that takes none of them has failed. -/
def write (s : Stream) (answer : WriteAnswer) : Octets × Stream × List Event :=
  match s.writer with
  | .writing rest =>
    match answer with
    | .accepted 0 => ([], s.giveUp .writeZero)
    | .accepted count =>
      (rest.take count, { s with writer := Writer.after (rest.drop count) }, [])
    | .wouldBlock => ([], s, [])
    | .failed fault => ([], s.giveUp fault)
  | _ => ([], s, [])

end Stream

end MediaTransport.Socket
