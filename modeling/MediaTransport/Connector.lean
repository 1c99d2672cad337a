/-
# MediaTransport.Connector -- one stream over one socket

A connector receives the packets of its protocol from a socket and sends packets to
it.  It owns the buffer pool of the stream, the input filter, the counters and the gate
of its reports.

The socket is not part of the state.  What it hands over is an input (`Arrival`, or the
answer to a send), and what is asked of it is an output: every operation answers with
the `Action`s it performed, in order, among them the requests to the socket, the events
for the log and the packets for the packet logger.  Time is an input as well.

Two flags describe the end of a connector.  `closed` may be set from anywhere and stays
set; `released` says that the socket and the pool have been closed, which happens once,
at the first `close` or at the first receive that ends in an error.
-/
import MediaTransport.Counts
import MediaTransport.Filter
import MediaTransport.Net.Fault
import MediaTransport.PacketLog
import MediaTransport.Pool

namespace MediaTransport

set_option autoImplicit false

open Net (Address Fault)

/-- What a socket hands over to a receive. -/
inductive Arrival where
  /-- Octets from a sender.  The socket stores as many as fit and reports their number,
  unless it claims another. -/
  | packet (bytes : Octets) (claimed : Option Nat) (source : Address)
  | failed (fault : Fault)
  deriving DecidableEq

/-- Where an outgoing packet went. -/
structure Delivery where
  remote : Address
  /-- Queued packets that were dropped to make room for this one. -/
  dropped : Nat := 0
  deriving DecidableEq

/-- A packet that was received, in its buffer. -/
structure Received where
  loan : Loan
  source : Address
  deriving DecidableEq

/-- One stream over one socket. -/
structure Connector where
  protocol : Protocol
  transport : Transport
  /-- The address of this end. -/
  interface : Address
  filter : Option Filter := none
  limiter : Limiter
  pool : Pool
  counts : Counts := {}
  /-- Whether packets are handed to a packet logger. -/
  records : Bool := false
  /-- Whether a receive has ever been started. -/
  receiving : Bool := false
  closed : Bool := false
  released : Bool := false
  /-- The buffer of the receive under way. -/
  waiting : Option Loan := none

namespace Connector

/-- Why an operation of a connector failed. -/
inductive Error where
  | window (error : Window.OutOfBounds)
  /-- Terminal: every later receive fails the same way. -/
  | closed
  /-- The receive buffer can be changed before the first receive only. -/
  | receiving
  /-- A datagram without a target and without a configured remote. -/
  | noTarget
  | io (fault : Fault)
  deriving DecidableEq

namespace Error

/-- The error below this one, if there is one. -/
def source : Error → Option String
  | .window e => some e.message
  | .io fault => some fault.description
  | _ => none

def message : Error → String
  | .window e => s!"invalid argument: {e.message}"
  | .closed => "transport closed"
  | .receiving => "receive already started"
  | .noTarget => "no target address"
  | .io fault => s!"io error: {fault.description}"

end Error

/-! ## What a connector does -/

/-- What a connector reports. -/
inductive Event where
  | ready (protocol : Protocol) (interface : Address) (transport : Transport) (mtu : Nat)
  | peerClosed (protocol : Protocol) (source interface : Address)
  | receiveFailed (protocol : Protocol) (interface : Address) (transport : Transport)
      (fault : Fault)
  | oversized (protocol : Protocol) (source : Address) (mtu : Nat) (truncated : UInt64)
  | overflow (protocol : Protocol) (remote : Address) (dropped : UInt64)
  | filtered (warning : Filter.Warning)
  | closed (protocol : Protocol) (interface : Address) (transport : Transport)
  deriving DecidableEq

def Event.entry : Event → Log.Entry
  | .ready protocol interface transport mtu =>
    ⟨.info, Log.detailed (protocol.name ++ " connector ready")
      [("interface", interface.text), ("transport", transport.name), ("mtu", toString mtu)]⟩
  | .peerClosed protocol source interface =>
    ⟨.info, Log.detailed (protocol.name ++ " transport closed by peer")
      [("addr", source.text), ("interface", interface.text)]⟩
  | .receiveFailed protocol interface transport fault =>
    ⟨.error, Log.detailed (protocol.name ++ " receive failed")
      [("interface", interface.text), ("transport", transport.name),
        ("err", fault.description)]⟩
  | .oversized protocol source mtu truncated =>
    ⟨.warn, Log.detailed (protocol.name ++ " datagram exceeds mtu, dropped")
      [("addr", source.text), ("mtu", toString mtu), ("truncated", toString truncated)]⟩
  | .overflow protocol remote dropped =>
    ⟨.warn, Log.detailed (protocol.name ++ " send queue overflow")
      [("addr", remote.text), ("dropped", toString dropped)]⟩
  | .filtered warning => warning.entry
  | .closed protocol interface transport =>
    ⟨.info, Log.detailed (protocol.name ++ " connector closed")
      [("interface", interface.text), ("transport", transport.name)]⟩

/-- One thing that a connector does to its surroundings. -/
inductive Action where
  /-- Asks the socket for a packet. -/
  | ask
  /-- Hands a packet to the socket. -/
  | offer (bytes : Octets) (target : Option Address)
  /-- Closes the socket. -/
  | shut
  | report (event : Event)
  /-- Hands a packet to the packet logger. -/
  | record (packet : PacketLog.Record)
  deriving DecidableEq

/-- What the log gets to see of an action under a packet logger. -/
def Action.entries (logger : PacketLog.Logger) : Action → List Log.Entry
  | .report event => [event.entry]
  | .record packet => logger.entries packet
  | _ => []

/-! ## Closing -/

/-- Marks the connector as closed, as anyone may at any time. -/
def markClosed (c : Connector) : Connector :=
  { c with closed := true }

/-- Closes the connector, its socket and its pool; the latter two once. -/
def close (c : Connector) : Connector × List Action :=
  if c.released then (c.markClosed, [])
  else
    ({ c.markClosed with released := true, pool := c.pool.close },
      [.shut, .report (.closed c.protocol c.interface c.transport)])

/-- Gives a buffer back to the pool. -/
def recycle (c : Connector) (loan : Loan) : Connector :=
  { c with pool := c.pool.recycle loan }

/-- What is handed to the packet logger for a packet. -/
def recorded (c : Connector) (remote : Address) (outbound : Bool) (bytes : Octets) :
    List Action :=
  if c.records then
    [.record ⟨c.protocol, c.interface, remote, c.transport, outbound, bytes⟩]
  else []

/-- Asks the gate of the connector for a report. -/
def gated (c : Connector) (now : Tick) (event : Event) : Connector × List Action :=
  let (permitted, limiter) := c.limiter.shouldRun now
  ({ c with limiter }, if permitted then [.report event] else [])

/-! ## Receiving -/

/-- What has become of a receive. -/
inductive Progress where
  /-- The packet was dropped or none has been looked at; the receive goes on. -/
  | continue
  | done (result : Except Error Received)

/-- Ends a receive: the buffer goes back and the connector is closed. -/
def fail (c : Connector) (loan : Loan) : Connector × List Action :=
  (c.recycle loan).close

/-- The largest datagram that is accepted: one octet less than a buffer holds. -/
def mtu (c : Connector) : Nat :=
  c.pool.size - 1

/-- Whether a packet of some size may have been cut short: a datagram that fills the
whole buffer. -/
def mayBeCut (c : Connector) (size : Nat) : Bool :=
  c.transport = .udp && c.pool.size ≤ size

/-- Drops a datagram that may have been cut short. -/
def dropOversized (c : Connector) (now : Tick) (loan : Loan) (source : Address) :
    Connector × List Action :=
  let counts := c.counts.report [(.truncatedPkts, 1)]
  gated { c.recycle loan with counts } now
    (.oversized c.protocol source c.mtu counts.truncatedPkts)

/-- Passes a packet through the filter; says whether it stays. -/
def screen (c : Connector) (now : Tick) (bytes : Octets) : Bool × Connector × List Action :=
  match c.filter with
  | none => (true, c, [])
  | some filter =>
    let (accepted, filter, warning) := filter.accept now bytes
    (accepted, { c with filter := some filter },
      warning.toList.map fun w => .report (.filtered w))

/-- Judges the packet in a window of its buffer. -/
def judge (c : Connector) (now : Tick) (loan : Loan) (source : Address) :
    Progress × Connector × List Action :=
  match c.screen now loan.window.bytes with
  | (false, c, actions) =>
    (.continue,
      { c.recycle loan with counts := c.counts.report [(.rejectedPkts, 1)] }, actions)
  | (true, c, actions) =>
    let size := UInt64.ofNat loan.window.length
    let counts := c.counts.report [(.receivedBytes, size), (.receivedPkts, 1)]
    (.done (.ok ⟨loan, source⟩), { c with counts },
      actions ++ c.recorded source false loan.window.bytes)

/-- A buffer with octets stored at its front. -/
def store (loan : Loan) (bytes : Octets) : Loan :=
  { loan with window := Window.full (loan.window.storage.overwrite 0 bytes) }

/-- Takes what the socket hands over into the buffer of a receive. -/
def take (c : Connector) (now : Tick) (loan : Loan) :
    Arrival → Progress × Connector × List Action
  | .failed fault =>
    let (c, reported) :=
      c.gated now (.receiveFailed c.protocol c.interface c.transport fault)
    let (c, closing) := c.fail loan
    (.done (.error .closed), c, reported ++ closing)
  | .packet bytes claimed source =>
    let stored := bytes.take loan.window.capacity
    let size := claimed.getD stored.length
    let filled := store loan stored
    if c.transport = .tcp ∧ size = 0 then
      let (c, closing) := c.fail filled
      (.done (.error .closed), c,
        .report (.peerClosed c.protocol source c.interface) :: closing)
    else if c.mayBeCut size then
      let (c, actions) := c.dropOversized now filled source
      (.continue, c, actions)
    else
      match Window.make filled.window.storage 0 size with
      | .error e => (.done (.error (.window e)), c, [])
      | .ok window => c.judge now { filled with window } source

/-- What a poll of a receive answers. -/
inductive Poll where
  | pending
  | ready (result : Except Error Received)

/-- A poll's answer, the connector after it, its actions and what is left at the
socket. -/
structure Polled where
  result : Poll
  connector : Connector
  actions : List Action
  inbox : List Arrival

/-- Begins to wait for a packet: takes a buffer and asks the socket, unless the
connector is closed. -/
def enter (c : Connector) : Option Loan × Connector × List Action :=
  if c.closed then
    let (c, actions) := c.close
    (none, c, actions)
  else
    let (loan, pool) := c.pool.acquire
    (some loan, { c with pool }, [.ask])

/-- Ends a receive whose connector was closed from elsewhere. -/
def stop (c : Connector) (loan : Loan) (inbox : List Arrival) : Polled :=
  let (c, actions) := c.fail loan
  ⟨.ready (.error .closed), c, actions, inbox⟩

/-- Goes on with a receive that holds a buffer, as long as the socket has something to
hand over and packets are dropped. -/
def pump (now : Tick) : List Arrival → Connector → Loan → Polled
  | [], c, loan =>
    if c.closed then c.stop loan []
    else ⟨.pending, { c with waiting := some loan }, [], []⟩
  | arrival :: rest, c, loan =>
    if c.closed then c.stop loan (arrival :: rest)
    else
      match c.take now loan arrival with
      | (.done result, c, actions) => ⟨.ready result, c, actions, rest⟩
      | (.continue, c, actions) =>
        match c.enter with
        | (none, c, more) => ⟨.ready (.error .closed), c, actions ++ more, rest⟩
        | (some loan, c, more) =>
          let later := pump now rest c loan
          { later with actions := actions ++ more ++ later.actions }

/-- Polls the receive under way, after starting one if there is none. -/
def poll (c : Connector) (now : Tick) (inbox : List Arrival) : Polled :=
  match c.waiting with
  | some loan => pump now inbox { c with waiting := none } loan
  | none =>
    match enter { c with receiving := true } with
    | (none, c, actions) => ⟨.ready (.error .closed), c, actions, inbox⟩
    | (some loan, c, actions) =>
      let later := pump now inbox c loan
      { later with actions := actions ++ later.actions }

/-- Gives up the receive under way, and its buffer; says whether there was one. -/
def cancel (c : Connector) : Bool × Connector :=
  (c.waiting.isSome, { c with waiting := none })

/-- Whether the window of a packet is invalid: the pool of its buffer is closed. -/
def invalidates (c : Connector) (loan : Loan) : Bool :=
  c.pool.invalidates loan

/-! ## Sending -/

/-- Ends a send whose packet the socket has; `answer` is what the socket says to it. -/
def conclude (c : Connector) (now : Tick) (bytes : Octets)
    (answer : Except Error Delivery) : Except Error Unit × Connector × List Action :=
  match answer with
  | .error e => (.error e, c, [])
  | .ok delivery =>
    let size := UInt64.ofNat bytes.length
    let c := { c with counts := c.counts.report [(.sendBytes, size), (.sendPkts, 1)] }
    let (c, reported) :=
      if delivery.dropped = 0 then (c, [])
      else
        let dropped := UInt64.ofNat delivery.dropped
        let counts := c.counts.report [(.droppedPkts, dropped)]
        gated { c with counts } now
          (.overflow c.protocol delivery.remote counts.droppedPkts)
    (.ok (), c, reported ++ c.recorded delivery.remote true bytes)

/-- Sends a packet, unless the connector is closed. -/
def send (c : Connector) (now : Tick) (bytes : Octets) (target : Option Address)
    (answer : Except Error Delivery) : Except Error Unit × Connector × List Action :=
  if c.closed then (.error .closed, c, [])
  else
    let (result, c, actions) := c.conclude now bytes answer
    (result, c, .offer bytes target :: actions)

/-- Changes the receive buffer of the socket, whose answer is given; allowed before the
first receive only. -/
def setReceiveBuffer (c : Connector) (answer : Except Fault Unit) : Except Error Unit :=
  if c.receiving then .error .receiving else answer.mapError .io

end Connector

end MediaTransport
