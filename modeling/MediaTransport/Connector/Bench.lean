/-
# MediaTransport.Connector.Bench -- a connector on a socket that follows a script

A bench is a connector with a scripted socket: what the socket will hand over is a list,
its answer to a send comes with the send, and it counts what is asked of it.  Packets
that were received are kept under names until they are given back.  `Bench.step` carries
out one operation, so that a history of a connector is a list.
-/
import MediaTransport.Connector
import MediaTransport.Window.Edit

namespace MediaTransport

set_option autoImplicit false

open Net (Address Fault)

/-- A connector on a scripted socket. -/
structure Bench where
  connector : Connector
  now : Tick := 0
  /-- What the socket has yet to hand over. -/
  inbox : List Arrival := []
  /-- How often the socket was asked for a packet. -/
  asked : Nat := 0
  /-- How often the socket was closed. -/
  shut : Nat := 0
  /-- The size that the receive buffer of the socket was set to last. -/
  bufferSize : Nat := 0
  /-- Why the socket refuses to size its receive buffer, if it does. -/
  refusal : Option Fault := none
  /-- The packets that were received, by name, each name once. -/
  held : List (String × Received) := []

namespace Bench

/-- One use of a bench. -/
inductive Op where
  | feed (arrival : Arrival)
  /-- Polls the receive under way, or a new one; its packet is kept under a name. -/
  | receive (name : String)
  | cancel
  | recycle (name : String)
  | free (name : String)
  | inspect (name : String)
  | edit (name : String) (change : Window.Edit)
  | send (bytes : Octets) (target : Option Address)
      (answer : Except Connector.Error Delivery)
  /-- Sizes the receive buffer; a fault makes the socket refuse from now on. -/
  | setBuffer (size : Nat) (fault : Option Fault)
  | readBuffer
  | close
  /-- Marks the connector as closed from outside. -/
  | markClosed
  | advance (milliseconds : Tick)

/-- What a use of a bench answers. -/
inductive Answer where
  | done
  | pending
  | received (packet : Received)
  | existed (yes : Bool)
  | held (loan : Loan)
  | edited
  | refused (error : Window.EditError)
  | size (bytes : Nat)
  | failed (error : Connector.Error)

/-- Counts what the connector asked of the socket. -/
def observe (b : Bench) (actions : List Connector.Action) : Bench :=
  { b with
    asked := b.asked + actions.count .ask
    shut := b.shut + actions.count .shut }

def release (b : Bench) (name : String) : Bench :=
  { b with held := b.held.filter fun entry => entry.1 != name }

def hold (b : Bench) (name : String) (packet : Received) : Bench :=
  { b with held := (name, packet) :: (b.release name).held }

/-- Carries out one operation; `none` if it names a packet that is not held. -/
def step (b : Bench) : Op → Option (Answer × Bench × List Connector.Action)
  | .feed arrival => some (.done, { b with inbox := b.inbox ++ [arrival] }, [])
  | .receive name =>
    let polled := b.connector.poll b.now b.inbox
    let after := observe { b with connector := polled.connector, inbox := polled.inbox }
      polled.actions
    match polled.result with
    | .pending => some (.pending, after, polled.actions)
    | .ready (.error e) => some (.failed e, after, polled.actions)
    | .ready (.ok packet) => some (.received packet, after.hold name packet, polled.actions)
  | .cancel =>
    let (existed, connector) := b.connector.cancel
    some (.existed existed, { b with connector }, [])
  | .recycle name =>
    (b.held.lookup name).map fun packet =>
      (.done, { b.release name with connector := b.connector.recycle packet.loan }, [])
  | .free name => (b.held.lookup name).map fun _ => (.done, b.release name, [])
  | .inspect name => (b.held.lookup name).map fun packet => (.held packet.loan, b, [])
  | .edit name change =>
    (b.held.lookup name).map fun packet =>
      match packet.loan.window.edit change with
      | .ok window => (.edited, b.hold name { packet with loan.window := window }, [])
      | .error e => (.refused e, b, [])
  | .send bytes target answer =>
    let (result, connector, actions) := b.connector.send b.now bytes target answer
    let after := observe { b with connector } actions
    match result with
    | .ok () => some (.done, after, actions)
    | .error e => some (.failed e, after, actions)
  | .setBuffer size fault =>
    let refusal := fault.orElse fun _ => b.refusal
    let b := { b with refusal }
    let answer := match refusal with
      | some cause => .error cause
      | none => .ok ()
    match b.connector.setReceiveBuffer answer with
    | .ok () => some (.done, { b with bufferSize := size }, [])
    | .error e => some (.failed e, b, [])
  | .readBuffer =>
    match b.refusal with
    | some cause => some (.failed (.io cause), b, [])
    | none => some (.size b.bufferSize, b, [])
  | .close =>
    let (connector, actions) := b.connector.close
    some (.done, observe { b with connector } actions, actions)
  | .markClosed => some (.done, { b with connector := b.connector.markClosed }, [])
  | .advance milliseconds => some (.done, { b with now := b.now + milliseconds }, [])

end Bench

end MediaTransport
