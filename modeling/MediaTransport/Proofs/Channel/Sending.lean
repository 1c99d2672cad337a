/-
# MediaTransport.Proofs.Channel.Sending -- what decides a send, and what a failed one leaves

A send passes one check after the other: the flag of the connector, then on datagrams whether
there is an address, then the slot of the socket or the queue, and at last the host.  `Verdict`
has one rule for each place where this can end, and the rules exclude each other
(`Verdict.unique`): so each error has one cause, and the first check that fails names it.

A send that fails returns the channel as it was, and all that was done is to offer the packet
to the socket (`send_of_closed`, `send_of_refused`); one that ends well has passed the packet
on to one address (`Passes`).  On a host nothing moves unless the packet does (`Hosted`).

Where sends overlap with other calls, a send is two turns of the connector: it is offered to
the socket and answered.  The first leaves no trace, and neither does the second if the send
fails in it (`Traffic.Turn.Traceless`).
-/
import MediaTransport.Channel.OnHost
import MediaTransport.Proofs.Channel.Egress

namespace MediaTransport

set_option autoImplicit false

open Net (Address Fault Host)
open Connector (Action)

namespace Channel

/-! ## What decides a send -/

/-- Where a datagram goes: to the target, and without one to the remote of the socket. -/
def Goes (remote target : Option Address) (address : Address) : Prop :=
  target = some address ∨ target = none ∧ remote = some address

theorem goes_iff (d : Socket.Datagram) (target : Option Address) (address : Address) :
    Goes d.remote target address ↔ d.destination target = some address := by
  cases target <;> simp [Goes, Socket.Datagram.destination]

/-- The address that a packet goes to, or why it goes nowhere. -/
inductive Verdict (c : Channel) (target : Option Address) (answer : Address → Except Fault Unit) :
    Except Connector.Error Address → Prop
  /-- The connector is closed, whatever the target. -/
  | closed (closed : c.connector.closed = true) : Verdict c target answer (.error .closed)
  | noTarget {d : Socket.Datagram} (opened : c.connector.closed = false)
    (below : c.socket = .datagram d) (untargeted : target = none) (unset : d.remote = none) :
    Verdict c target answer (.error .noTarget)
  /-- The socket was closed underneath. -/
  | slotClosed {d : Socket.Datagram} {address : Address} (opened : c.connector.closed = false)
    (below : c.socket = .datagram d) (goes : Goes d.remote target address)
    (gone : d.isOpen = false) : Verdict c target answer (.error .closed)
  | refused {d : Socket.Datagram} {address : Address} {fault : Fault}
    (opened : c.connector.closed = false) (below : c.socket = .datagram d)
    (goes : Goes d.remote target address) (bound : d.isOpen = true)
    (said : answer address = .error fault) : Verdict c target answer (.error (.io fault))
  | posted {d : Socket.Datagram} {address : Address} (opened : c.connector.closed = false)
    (below : c.socket = .datagram d) (goes : Goes d.remote target address)
    (bound : d.isOpen = true) (said : answer address = .ok ()) :
    Verdict c target answer (.ok address)
  /-- The queue was closed underneath. -/
  | queueClosed {s : Socket.Stream} (opened : c.connector.closed = false)
    (below : c.socket = .stream s) (gone : s.queue.closed = true) :
    Verdict c target answer (.error .closed)
  /-- To the peer, whatever the target. -/
  | queued {s : Socket.Stream} (opened : c.connector.closed = false)
    (below : c.socket = .stream s) (going : s.queue.closed = false) :
    Verdict c target answer (.ok s.peer)

section Decision

variable {c : Channel} {now : Tick} {bytes : Octets} {target : Option Address}
variable {answer : Address → Except Fault Unit}

theorem Verdict.unique {first second : Except Connector.Error Address}
    (one : Verdict c target answer first) (other : Verdict c target answer second) :
    first = second := by
  -- Rules differ in what they find, so the mixed cases contradict.
  cases one <;> cases other <;> grind [Goes]

/-- What is done with a packet that goes to an address: a stream has it in its queue, and the
packet logger is told the address. -/
structure Passes (c : Channel) (bytes : Octets) (address : Address) (after : Channel)
    (actions : List Action) : Prop where
  socket : after.socket = match c.socket with
    | .datagram d => .datagram d
    | .stream s => .stream { s with queue := (s.queue.push bytes).2 }
  logged : Connector.logged actions =
    if c.connector.records then
      [⟨c.connector.protocol, c.connector.interface, address, c.connector.transport, true, bytes⟩]
    else []

/-- What a send answers and leaves, as its verdict has it. -/
structure Decided (c : Channel) (bytes : Octets) (target : Option Address)
    (answer : Address → Except Fault Unit)
    (sent : Except Connector.Error Unit × Channel × List Action)
    (verdict : Except Connector.Error Address) : Prop where
  rule : Verdict c target answer verdict
  only : ∀ other, Verdict c target answer other → other = verdict
  result : sent.1 = verdict.map fun _ => ()
  /-- A send that fails leaves all as it was: the counters, the limiter, the filter, the queue.
  Nothing is reported and nothing is handed to the packet logger. -/
  traceless : ∀ e, sent.1 = .error e →
    sent.2.1 = c ∧ ∀ action ∈ sent.2.2, action = .offer bytes target
  passes : ∀ address, verdict = .ok address → Passes c bytes address sent.2.1 sent.2.2

theorem send_of_closed (closed : c.connector.closed = true) :
    c.send now bytes target answer = (.error .closed, c, []) := by
  simp [send, Connector.send, closed]

theorem send_of_refused {e : Connector.Error} (opened : c.connector.closed = false)
    (said : c.socket.send bytes target answer = (.error e, c.socket)) :
    c.send now bytes target answer = (.error e, c, [.offer bytes target]) := by
  simp [send, Connector.send, Connector.conclude, opened, said]

theorem send_of_taken {delivery : Delivery} {socket : Socket}
    (opened : c.connector.closed = false)
    (said : c.socket.send bytes target answer = (.ok delivery, socket)) :
    c.send now bytes target answer =
      (.ok (), ⟨(c.connector.conclude now bytes (.ok delivery)).2.1, socket⟩,
        .offer bytes target :: (c.connector.conclude now bytes (.ok delivery)).2.2) := by
  have ok := (c.connector.conclude_ok now bytes delivery).1
  simp [send, Connector.send, opened, said, ← ok]

namespace Decided

theorem of_failed {e : Connector.Error} {actions : List Action}
    (rule : Verdict c target answer (.error e))
    (told : c.send now bytes target answer = (.error e, c, actions))
    (quiet : ∀ action ∈ actions, action = .offer bytes target) :
    Decided c bytes target answer (c.send now bytes target answer) (.error e) := by
  rw [told]
  exact ⟨rule, fun _ other => other.unique rule, rfl, fun _ _ => ⟨rfl, quiet⟩, nofun⟩

theorem of_refused {e : Connector.Error} (rule : Verdict c target answer (.error e))
    (opened : c.connector.closed = false)
    (said : c.socket.send bytes target answer = (.error e, c.socket)) :
    Decided c bytes target answer (c.send now bytes target answer) (.error e) :=
  of_failed rule (send_of_refused opened said) (by simp)

theorem of_taken {delivery : Delivery} {socket : Socket}
    (rule : Verdict c target answer (.ok delivery.remote)) (opened : c.connector.closed = false)
    (said : c.socket.send bytes target answer = (.ok delivery, socket))
    (kept : socket = match c.socket with
      | .datagram d => .datagram d
      | .stream s => .stream { s with queue := (s.queue.push bytes).2 }) :
    Decided c bytes target answer (c.send now bytes target answer) (.ok delivery.remote) := by
  rw [send_of_taken opened said]
  refine ⟨rule, fun _ other => other.unique rule, rfl, nofun, fun address same => ?_⟩
  obtain rfl := Except.ok.inj same
  obtain ⟨-, -, -, -, -, -, logged, -⟩ := c.connector.conclude_ok now bytes delivery
  refine ⟨kept, ?_⟩
  calc Connector.logged (.offer bytes target :: (c.connector.conclude now bytes (.ok delivery)).2.2)
      = Connector.logged (c.connector.conclude now bytes (.ok delivery)).2.2 := rfl
    _ = Connector.logged (c.connector.recorded delivery.remote true bytes) := logged
    _ = _ := by
        unfold Connector.recorded
        split <;> rfl

/-- Datagrams: first the address, then the slot, then the host. -/
theorem datagram {d : Socket.Datagram} (opened : c.connector.closed = false)
    (below : c.socket = .datagram d) :
    ∃ verdict, Decided c bytes target answer (c.send now bytes target answer) verdict := by
  have asked : c.socket.send bytes target answer = (d.send target answer, c.socket) := by
    rw [below]
    rfl
  cases there : d.destination target with
  | none =>
      have untargeted : target = none ∧ d.remote = none := by
        simpa [Socket.Datagram.destination] using there
      have said : d.send target answer = .error .noTarget := by
        simp [Socket.Datagram.send, there]
      exact ⟨_, of_refused (.noTarget opened below untargeted.1 untargeted.2) opened
        (said ▸ asked)⟩
  | some address =>
      have goes := (goes_iff d target address).2 there
      cases bound : d.isOpen with
      | false =>
          have said : d.send target answer = .error .closed := by
            simp [Socket.Datagram.send, there, bound]
          exact ⟨_, of_refused (.slotClosed opened below goes bound) opened (said ▸ asked)⟩
      | true =>
          cases heard : answer address with
          | error fault =>
              have said : d.send target answer = .error (.io fault) := by
                simp [Socket.Datagram.send, there, bound, heard]
              exact ⟨_, of_refused (.refused opened below goes bound heard) opened
                (said ▸ asked)⟩
          | ok =>
              have said : d.send target answer = .ok { remote := address } := by
                simp [Socket.Datagram.send, there, bound, heard]
              exact ⟨_, of_taken (.posted opened below goes bound heard) opened (said ▸ asked)
                (by rw [below])⟩

/-- A stream looks at its queue only. -/
theorem stream {s : Socket.Stream} (opened : c.connector.closed = false)
    (below : c.socket = .stream s) :
    ∃ verdict, Decided c bytes target answer (c.send now bytes target answer) verdict := by
  cases going : s.queue.closed with
  | true =>
      have said : c.socket.send bytes target answer = (.error .closed, c.socket) := by
        simp [below, Socket.send, Socket.Stream.send, going]
      exact ⟨_, of_refused (.queueClosed opened below going) opened said⟩
  | false =>
      have said : c.socket.send bytes target answer =
          (.ok { remote := s.peer, dropped := (s.queue.push bytes).1 },
            .stream { s with queue := (s.queue.push bytes).2 }) := by
        simp [below, Socket.send, Socket.Stream.send, going]
      exact ⟨_, of_taken (.queued opened below going) opened said (by rw [below])⟩

end Decided

theorem send_decided (c : Channel) (now : Tick) (bytes : Octets) (target : Option Address)
    (answer : Address → Except Fault Unit) :
    ∃ verdict, Decided c bytes target answer (c.send now bytes target answer) verdict := by
  cases closed : c.connector.closed with
  | true => exact ⟨_, .of_failed (.closed closed) (send_of_closed closed) (by simp)⟩
  | false =>
      cases below : c.socket with
      | datagram d => exact Decided.datagram closed below
      | stream s => exact Decided.stream closed below

end Decision

/-- Without an address it does not matter that the socket was closed underneath. -/
example :
    (send ⟨Connector.example13, .datagram { remote := none, isOpen := false }⟩ 0 [] none
      fun _ => .ok ()).1 = .error .noTarget := by
  rfl

/-! ## On a host -/

/-- What a host says to a packet for an address. -/
def hears (c : Channel) (host : Host) (bytes : Octets) (address : Address) : Except Fault Unit :=
  (host.send c.connector.interface address bytes).1

/-- A send on a host is the send that hears the host, which has the packet only if it goes
there. -/
structure Hosted (c : Channel) (host : Host) (bytes : Octets) (target : Option Address)
    (sent : Except Connector.Error Unit × Channel × List Action)
    (onHost : Except Connector.Error Unit × Channel × Host × List Action) : Prop where
  same : (onHost.1, onHost.2.1, onHost.2.2.2) = sent
  untouched : ∀ e, onHost.1 = .error e → onHost.2.2.1 = host
  posted : ∀ address, Verdict c target (c.hears host bytes) (.ok address) →
    onHost.2.2.1 = match c.socket with
      | .datagram _ => (host.send c.connector.interface address bytes).2
      | .stream _ => host

theorem sendOn_hosted (c : Channel) (host : Host) (now : Tick) (bytes : Octets)
    (target : Option Address) :
    Hosted c host bytes target (c.send now bytes target (c.hears host bytes))
      (c.sendOn host now bytes target) := by
  obtain ⟨verdict, decided⟩ := send_decided c now bytes target (c.hears host bytes)
  rcases told : c.send now bytes target (c.hears host bytes) with ⟨result, after, actions⟩
  have answered : result = verdict.map fun _ => () := by
    rw [← decided.result, told]
  have heard : c.send now bytes target
      (fun address => (host.send c.connector.interface address bytes).1) =
        (result, after, actions) := told
  simp only [sendOn]
  rw [heard]
  refine ⟨rfl, fun e failed => ?_, fun address rule => ?_⟩
  · obtain rfl : result = .error e := failed
    rfl
  · obtain rfl := decided.only _ rule
    rw [answered]
    cases rule with
    | posted opened below goes bound said =>
        simp only [below, Except.map, (goes_iff _ _ _).1 goes]
    | queued opened below going => simp only [below, Except.map]

end Channel

/-! ## Overlapping calls -/

theorem Socket.Stream.send_of_error {s : Socket.Stream} {bytes : Octets} {e : Connector.Error}
    (failed : (s.send bytes).1 = .error e) : (s.send bytes).2 = s := by
  unfold send at failed ⊢
  split
  · rfl
  · rename_i going
    rw [if_neg going] at failed
    cases failed

namespace Traffic.Turn

/-- A turn that belongs to a send leaves no trace in the connector, unless the send ends well in
it. -/
structure Traceless (turn : Turn) : Prop where
  /-- When a send begins, its packet is offered at most. -/
  begins : ∀ bytes target, turn.op = .send bytes target →
    turn.after.connector = turn.before.connector ∧
      (∀ action ∈ turn.effect.actions, action = .offer bytes target) ∧ turn.passes = []
  /-- When one fails, nothing is done, and a stream below that it heard is as it was. -/
  fails : ∀ bytes e, turn.effect.outcome = some (.sent bytes (.error e)) →
    turn.after.connector = turn.before.connector ∧
      turn.effect.actions = [] ∧ ∀ s : Socket.Stream, turn.Heard s → s.run turn.passes = s

theorem traceless (turn : Turn) : turn.Traceless := by
  obtain ⟨t, op, effect, u, step⟩ := turn
  constructor
  · intro bytes target begins
    cases step with
    | send opened =>
        cases begins
        exact ⟨rfl, by simp, rfl⟩
    | sendClosed closed => exact ⟨rfl, by simp, rfl⟩
    | _ => cases begins
  · intro bytes e failed
    cases step with
    | sendClosed closed => exact ⟨rfl, rfl, fun _ _ => rfl⟩
    | @answer call other answer result c actions found concluded =>
        cases failed
        cases answer with
        | ok delivery =>
            have ok := (t.connector.conclude_ok t.now bytes delivery).1
            rw [concluded] at ok
            cases ok
        | error cause =>
            cases concluded
            refine ⟨rfl, rfl, fun s heard => ?_⟩
            have said := heard call _ bytes rfl found
            simp only [passes, found]
            exact (s.after_send bytes).trans (Socket.Stream.send_of_error said.symm)
    | _ => cases failed

end Traffic.Turn

/-! ## The result -/

namespace Channel

/-- **A failed send leaves no trace.**  Every send is decided by the first check that fails, and
one that fails leaves the channel as it was and the host below it.  Where calls overlap, no turn
of a send leaves a trace but the one in which the send ends well. -/
theorem failed_send_leaves_no_trace (c : Channel) (now : Tick) (bytes : Octets)
    (target : Option Address) :
    (∀ answer, ∃ verdict,
      Decided c bytes target answer (c.send now bytes target answer) verdict) ∧
    (∀ host, Hosted c host bytes target (c.send now bytes target (c.hears host bytes))
      (c.sendOn host now bytes target)) ∧
    ∀ turn : Traffic.Turn, turn.Traceless :=
  ⟨send_decided c now bytes target, fun host => c.sendOn_hosted host now bytes target,
    Traffic.Turn.traceless⟩

end Channel

end MediaTransport
