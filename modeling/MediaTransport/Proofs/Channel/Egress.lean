/-
# MediaTransport.Proofs.Channel.Egress -- from the calls on a connector to the wire

A connector above a stream is used by many at once (`Traffic`), and between their turns the
writer of the stream takes its steps.  Of a turn of the connector the stream sees what any
socket would (`Traffic.Turn.passes`): the packet of a send, to which it answers by itself
(`Traffic.Turn.Heard`), or the closing.

So a run of both is a run of the connector and a history of the stream (`Run.calls`,
`Run.passed`), and the two agree on what was sent and on what the sends were answered
(`Run.agrees`).  What the counters of the one show is thereby tied to what the host gets from
the other (`conveyed`).  That the operations of a channel are such runs is shown one by one;
no history of the stream short of a close is missing among them (`exists_run`).

A send may be overtaken by anything before it reaches the stream.  From there until it is
counted it is one turn: it does not wait there.
-/
import MediaTransport.Channel
import MediaTransport.Proofs.Connector.Accounting
import MediaTransport.Proofs.Socket.Egress

namespace MediaTransport

set_option autoImplicit false

open Socket.Stream (Wired Broken)
open SendQueue (Departure)
open Connector (example13 example13_fresh exampleAddress)

/-! ## What a stream sees of a connector -/

namespace Traffic.Turn

variable (turn : Turn)

/-- What a turn does to the stream below the connector. -/
def passes : List Socket.Stream.Op :=
  match turn.op with
  | .answer call _ =>
    match turn.before.calls[call]? with
    | some (.offered bytes) => [.send bytes]
    | _ => []
  | _ => if turn.effect.actions.contains .shut then [.close] else []

/-- A send is answered what the stream answers to it. -/
def Heard (s : Socket.Stream) : Prop :=
  ∀ call answer bytes, turn.op = .answer call answer →
    turn.before.calls[call]? = some (.offered bytes) → answer = (s.send bytes).1

namespace Heard

variable {turn : Turn} {s : Socket.Stream}

theorem of_unanswered (other : ∀ call answer, turn.op ≠ .answer call answer) : turn.Heard s :=
  fun call answer _ same => absurd same (other call answer)

theorem of_answer {call : Nat} (bytes : Octets)
    (answered : turn.op = .answer call (s.send bytes).1)
    (found : turn.before.calls[call]? = some (.offered bytes)) : turn.Heard s := by
  intro other answer packet op there
  cases answered.symm.trans op
  cases found.symm.trans there
  rfl

end Heard

end Traffic.Turn

/-- A connector with the calls on it, and the stream below. -/
structure Egress where
  traffic : Traffic
  stream : Socket.Stream

namespace Egress

/-- Both together, as the operations of a channel take them. -/
def channel (e : Egress) : Channel :=
  ⟨e.traffic.connector, .stream e.stream⟩

/-- What the writer of a stream may do. -/
inductive Work where
  | fetch
  | write (answer : Socket.WriteAnswer)

def Work.op : Work → Socket.Stream.Op
  | .fetch => .fetch
  | .write answer => .write answer

/-- One thing that happens. -/
inductive Event where
  | call (turn : Traffic.Turn)
  | work (task : Work)

/-- What it is on the connector, if it happens there. -/
def Event.call? : Event → Option Traffic.Turn
  | .call turn => some turn
  | .work _ => none

/-- What it is for the stream. -/
def Event.passes : Event → List Socket.Stream.Op
  | .call turn => turn.passes
  | .work task => [task.op]

/-- One thing after the other, in any order. -/
inductive Run : Egress → List Event → Egress → Prop where
  | stop (e : Egress) : Run e [] e
  | call {s : Socket.Stream} (turn : Traffic.Turn) (heard : turn.Heard s) {rest : List Event}
      {u : Egress} (later : Run ⟨turn.after, s.run turn.passes⟩ rest u) :
      Run ⟨turn.before, s⟩ (.call turn :: rest) u
  | work {e : Egress} (task : Work) {rest : List Event} {u : Egress}
      (later : Run ⟨e.traffic, e.stream.run [task.op]⟩ rest u) :
      Run e (.work task :: rest) u

/-- The turns of the connector. -/
def calls (events : List Event) : List Traffic.Turn :=
  events.filterMap Event.call?

/-- What happens to the stream. -/
def passed (events : List Event) : List Socket.Stream.Op :=
  events.flatMap Event.passes

/-- A connector on which no call is under way, above a stream that has just been connected. -/
def start (c : Connector) (now : Tick) (peer : Net.Address) (capacity : Nat) : Egress where
  traffic := .start c now
  stream := .start peer capacity

namespace Run

variable {e u : Egress} {events : List Event}

theorem calls (ran : Run e events u) : Traffic.Run e.traffic (calls events) u.traffic := by
  induction ran with
  | stop e => exact .stop _
  | call turn heard later ih => exact .turn turn ih
  | work task later ih => exact ih

theorem passed (ran : Run e events u) : u.stream = e.stream.run (passed events) := by
  induction ran with
  | stop e => rfl
  | call turn heard later ih => exact ih.trans (Socket.Stream.run_append _ _ _).symm
  | work task later ih => exact ih.trans (Socket.Stream.run_append _ _ _).symm

theorem append {m : Egress} {later : List Event} (first : Run e events m)
    (last : Run m later u) : Run e (events ++ later) u := by
  induction first with
  | stop e => exact last
  | call turn heard rest ih => exact .call turn heard (ih last)
  | work task rest ih => exact .work task (ih last)

/-- A run can be cut anywhere. -/
theorem split {earlier later : List Event} (ran : Run e (earlier ++ later) u) :
    ∃ m, Run e earlier m ∧ Run m later u := by
  induction earlier generalizing e with
  | nil => exact ⟨e, .stop e, ran⟩
  | cons event earlier ih =>
      cases ran with
      | call turn heard rest =>
          obtain ⟨m, first, last⟩ := ih rest
          exact ⟨m, .call turn heard first, last⟩
      | work task rest =>
          obtain ⟨m, first, last⟩ := ih rest
          exact ⟨m, .work task first, last⟩

end Run

end Egress

/-! ## Both sides tell the same -/

namespace Traffic.Turn

variable {turn : Turn} {s : Socket.Stream}

/-- No send ends well in a turn in which the socket does not answer. -/
theorem agrees_of_unanswered (other : ∀ call answer, turn.op ≠ .answer call answer) :
    turn.sent = Socket.Stream.sent (s.turns turn.passes) ∧
      turn.answered = Socket.Stream.deliveries (s.turns turn.passes) := by
  have unsent : turn.sent = [] ∧ turn.answered = [] := by
    obtain ⟨t, op, effect, u, step⟩ := turn
    cases step with
    | answer => exact absurd rfl (other _ _)
    | _ => exact ⟨rfl, rfl⟩
  rw [unsent.1, unsent.2]
  unfold passes
  split
  · exact absurd ‹_› (other _ _)
  · split <;> exact ⟨rfl, rfl⟩

/-- The connector takes a packet for sent if the stream does, and hears what the stream
answers. -/
theorem agrees (heard : turn.Heard s) :
    turn.sent = Socket.Stream.sent (s.turns turn.passes) ∧
      turn.answered = Socket.Stream.deliveries (s.turns turn.passes) := by
  obtain ⟨t, op, effect, u, step⟩ := turn
  cases step with
  | @answer call bytes answer result c actions found concluded =>
      have said := heard call answer bytes rfl found
      rcases told : s.send bytes with ⟨answer, next⟩
      rw [told] at said
      subst said
      cases answer with
      | error e =>
          cases concluded
          simp [sent, answered, passes, found, Socket.Stream.sent, Socket.Stream.deliveries,
            Socket.Stream.turns, Socket.Stream.Turn.effect, Socket.Stream.effect, told]
      | ok delivery =>
          have ok := (t.connector.conclude_ok t.now bytes delivery).1
          rw [concluded] at ok
          subst ok
          simp [sent, answered, passes, found, Socket.Stream.sent, Socket.Stream.deliveries,
            Socket.Stream.turns, Socket.Stream.Turn.effect, Socket.Stream.effect,
            Socket.Stream.Effect.using, told]
  | _ => exact agrees_of_unanswered (by simp)

/-- A broken stream lets no send end well. -/
theorem refuses (heard : turn.Heard s) (broken : Broken s) {bytes : Octets}
    {result : Except Connector.Error Unit}
    (returned : turn.effect.outcome = some (.sent bytes result)) : result = .error .closed := by
  obtain ⟨t, op, effect, u, step⟩ := turn
  cases step with
  | @answer call other answer told c actions found concluded =>
      have said : answer = .error .closed := by
        rw [heard call answer other rfl found, broken.send other]
      subst said
      cases concluded
      cases returned
      rfl
  | sendClosed closed =>
      cases returned
      rfl
  | _ => cases returned

end Traffic.Turn

namespace Egress

/-- The history of a stream in the course of a run. -/
def history (s : Socket.Stream) (events : List Event) : List Socket.Stream.Turn :=
  s.turns (passed events)

/-- The writer sends nothing of its own. -/
theorem Work.delivered (task : Work) (s : Socket.Stream) : (s.effect task.op).delivered = [] := by
  cases task with
  | fetch =>
      simp only [op, Socket.Stream.effect]
      split <;> rfl
  | write answer =>
      simp only [op, Socket.Stream.effect]
      split <;> rfl

namespace Run

variable {e u : Egress} {events : List Event}

theorem agrees (ran : Run e events u) :
    Traffic.sent (Egress.calls events) = Socket.Stream.sent (history e.stream events) ∧
      Traffic.answered (Egress.calls events) =
        Socket.Stream.deliveries (history e.stream events) := by
  induction ran with
  | stop e => exact ⟨rfl, rfl⟩
  | @call s turn heard rest u later ih =>
      obtain ⟨sent, answered⟩ := turn.agrees heard
      have cut : history s (.call turn :: rest) =
          s.turns turn.passes ++ history (s.run turn.passes) rest :=
        Socket.Stream.turns_append _ _ _
      rw [cut, Socket.Stream.sent, Socket.Stream.deliveries, List.flatMap_append,
        List.flatMap_append]
      exact ⟨congrArg₂ (· ++ ·) sent ih.1, congrArg₂ (· ++ ·) answered ih.2⟩
  | @work e task rest u later ih =>
      have silent := task.delivered e.stream
      have cut : history e.stream (.work task :: rest) =
          ⟨e.stream, task.op⟩ :: history (e.stream.run [task.op]) rest := rfl
      rw [cut, Socket.Stream.sent, Socket.Stream.deliveries, List.flatMap_cons, List.flatMap_cons,
        Socket.Stream.Turn.effect, silent]
      exact ih

/-- Once the stream is broken, every send that returns says that the transport is closed. -/
theorem refuses (ran : Run e events u) (broken : Broken e.stream) :
    ∀ turn ∈ Egress.calls events, ∀ bytes result,
      turn.effect.outcome = some (.sent bytes result) → result = .error .closed := by
  induction ran with
  | stop e => simp [Egress.calls]
  | @call s turn heard rest u later ih =>
      have next := (broken.turns turn.passes).1
      intro other member bytes result returned
      rcases List.mem_cons.1 member with rfl | inRest
      · exact Traffic.Turn.refuses heard broken returned
      · exact ih next other inRest bytes result returned
  | @work e task rest u later ih => exact ih (broken.turns [task.op]).1

end Run

/-! ## The operations of a channel -/

section Operations

variable (e : Egress)

/-- The channel of a configured stream, as it is when it has been connected. -/
theorem channel_start {config : Config} {protocol : Protocol} {remote : Net.Address}
    {listen : Option Net.Address} {mtu sendQueue : Nat} {buffer : Option Nat}
    (tcp : config.interface protocol = .tcp remote listen mtu buffer sendQueue)
    (address : Net.Address) (records : Bool) (now : Tick) :
    let c := Channel.ofConfig config protocol address records now
    (start c.connector now remote sendQueue).channel = c := by
  simp [channel, start, Traffic.start, Channel.ofConfig, Socket.ofInterface, tcp]

theorem fetch_runs : ∃ u, Run e [.work .fetch] u ∧ u.channel = e.channel.fetch.1 :=
  ⟨_, .work .fetch (.stop _), congrArg (Channel.mk _ <| Socket.stream ·) e.stream.after_fetch⟩

/-- The host takes what the history says. -/
theorem write_runs (answer : Socket.WriteAnswer) :
    ∃ u, Run e [.work (.write answer)] u ∧ u.channel = (e.channel.write answer).2.1 ∧
      Socket.Stream.handed (history e.stream [.work (.write answer)]) =
        (e.channel.write answer).1 := by
  refine ⟨_, .work (.write answer) (.stop _),
    congrArg (Channel.mk _ <| Socket.stream ·) (e.stream.after_write answer), ?_⟩
  exact (List.append_nil _).trans (e.stream.handed_write answer)

theorem close_runs : ∃ turn u, Run e [.call turn] u ∧ u.channel = e.channel.close.1 := by
  let turn : Traffic.Turn := ⟨e.traffic, .close, _, _, .close⟩
  have heard : turn.Heard e.stream := .of_unanswered (by simp [turn])
  refine ⟨turn, _, .call turn heard (.stop _), ?_⟩
  have told : e.channel.close.1 = ⟨e.traffic.connector.close.1,
      Channel.obey e.traffic.connector.close.2 (.stream e.stream)⟩ := rfl
  rw [told, Channel.obey]
  by_cases shut : e.traffic.connector.close.2.contains .shut = true
  · have passes : turn.passes = [.close] := if_pos shut
    rw [passes, if_pos shut]
    rfl
  · have passes : turn.passes = [] := if_neg shut
    rw [passes, if_neg shut]
    rfl

/-- A send on an open connector is offered to the stream, and answered at once. -/
theorem send_runs (bytes : Octets) (target : Option Net.Address)
    (answer : Net.Address → Except Net.Fault Unit) :
    ∃ events u, Run e events u ∧
      u.channel = (e.channel.send e.traffic.now bytes target answer).2.1 ∧
      Traffic.outcomes (calls events) =
        [.sent bytes (e.channel.send e.traffic.now bytes target answer).1] ∧
      passed events = if e.traffic.connector.closed then [] else [.send bytes] := by
  cases closed : e.traffic.connector.closed with
  | true =>
      let refused : Traffic.Turn := ⟨e.traffic, .send bytes target, _, _, .sendClosed closed⟩
      have heard : refused.Heard e.stream := .of_unanswered (by simp [refused])
      have told : e.channel.send e.traffic.now bytes target answer =
          (.error .closed, e.channel, []) := by
        simp [Channel.send, channel, Connector.send, closed]
      rw [told]
      exact ⟨_, _, .call refused heard (.stop _), rfl, rfl, rfl⟩
  | false =>
      rcases concluded : e.traffic.connector.conclude e.traffic.now bytes
        (e.stream.send bytes).1 with ⟨result, c, actions⟩
      have told : e.channel.send e.traffic.now bytes target answer =
          (result, ⟨c, .stream (e.stream.send bytes).2⟩, .offer bytes target :: actions) := by
        simp [Channel.send, Socket.send, channel, Connector.send, closed, concluded]
      let offered : Traffic.Turn := ⟨e.traffic, .send bytes target, _, _, .send closed⟩
      have waits : offered.after.calls[e.traffic.calls.length]? = some (.offered bytes) :=
        List.getElem?_concat_length
      let answered : Traffic.Turn := ⟨offered.after, .answer _ _, _, _, .answer waits concluded⟩
      have heard : answered.Heard e.stream := .of_answer bytes rfl waits
      have passes : answered.passes = [.send bytes] := by
        simp only [Traffic.Turn.passes, answered, waits]
      rw [told]
      refine ⟨_, _, .call offered (.of_unanswered (by simp [offered])) (.call answered heard (.stop _)),
        ?_, rfl, ?_⟩
      · rw [passes]
        exact congrArg (Channel.mk _ <| Socket.stream ·) (e.stream.after_send bytes)
      · exact congrArg (· ++ []) passes

end Operations

/-- A send neither closes a connector nor opens it, whatever the stream answers. -/
theorem closed_send (c : Channel) (now : Tick) (bytes : Octets) (target : Option Net.Address)
    (answer : Net.Address → Except Net.Fault Unit) :
    (c.send now bytes target answer).2.1.connector.closed = c.connector.closed := by
  have concluded : ∀ offered,
      (c.connector.conclude now bytes offered).2.1.closed = c.connector.closed := by
    intro offered
    cases offered with
    | error e => rfl
    | ok delivery =>
        obtain ⟨-, -, standing, -⟩ := c.connector.conclude_ok now bytes delivery
        exact congrArg Connector.Standing.closed standing
  unfold Channel.send Connector.send
  simp only
  split
  · rfl
  · exact concluded _

/-- Whatever may happen to a stream short of a close does happen to it in some run. -/
theorem exists_run {e : Egress} (opened : e.traffic.connector.closed = false)
    (ops : List Socket.Stream.Op) (going : ∀ op ∈ ops, op ≠ .close) :
    ∃ events u, Run e events u ∧ passed events = ops ∧ u.traffic.connector.closed = false := by
  induction ops generalizing e with
  | nil => exact ⟨[], e, .stop e, rfl, opened⟩
  | cons op ops ih =>
      have one : ∃ events u, Run e events u ∧ passed events = [op] ∧
          u.traffic.connector.closed = false := by
        cases op with
        | send bytes =>
            obtain ⟨events, u, ran, left, -, passed⟩ := e.send_runs bytes none fun _ => .ok ()
            refine ⟨events, u, ran, by simpa [opened] using passed, ?_⟩
            have same := closed_send e.channel e.traffic.now bytes none fun _ => .ok ()
            rw [← left] at same
            exact same.trans opened
        | fetch => exact ⟨_, _, .work .fetch (.stop _), rfl, opened⟩
        | write answer => exact ⟨_, _, .work (.write answer) (.stop _), rfl, opened⟩
        | close => exact absurd rfl (going .close List.mem_cons_self)
      obtain ⟨first, m, begins, passed_first, still⟩ := one
      obtain ⟨rest, u, ends, passed_rest, last⟩ :=
        ih still fun other member => going other (List.mem_cons_of_mem op member)
      refine ⟨first ++ rest, u, begins.append ends, ?_, last⟩
      rw [passed, List.flatMap_append]
      exact congrArg₂ (· ++ ·) passed_first passed_rest

/-! ## The whole way -/

/-- What becomes of the packets that are sent on a connector over a stream. -/
structure Conveyed (history : List Socket.Stream.Turn) (sent : List Octets) (capacity : Nat)
    (u : Egress) : Prop where
  /-- The host has got the packets that the writer took, the last one perhaps in part. -/
  wired : Wired (Socket.Stream.taken history) (Socket.Stream.handed history) u.stream.writer
    (Socket.Stream.failed history)
  /-- The writer took them in the order in which they were sent. -/
  ordered : (Socket.Stream.taken history).Sublist sent
  /-- The counters show, up to wrapping around, how many were sent and how many of these were
  displaced by others. -/
  sendPkts : u.traffic.connector.counts.sendPkts = .ofNat sent.length
  droppedPkts : u.traffic.connector.counts.droppedPkts =
    .ofNat (Socket.Stream.dropped history).length
  pending : u.stream.queue.items.length ≤ max capacity 1
  /-- Until the stream is closed or a write fails, what was sent was taken or displaced or is
  pending, each packet once and in order, and so the counters say. -/
  conserved : (∀ turn ∈ history, ¬ turn.Ends) →
    sent = (Socket.Stream.departures history).map Departure.packet ++ u.stream.queue.items ∧
      sent.length = (Socket.Stream.taken history).length +
        (Socket.Stream.dropped history).length + u.stream.queue.items.length ∧
      u.traffic.connector.counts.sendPkts =
        .ofNat (Socket.Stream.taken history).length + u.traffic.connector.counts.droppedPkts +
          .ofNat u.stream.queue.items.length

/-- What is left to say once a write has failed: the queue is closed, the host gets no more
than it has got, and all sends, those under way and those to come, are told so. -/
structure Silenced (earlier history : List Socket.Stream.Turn) (later : List Event)
    (u : Egress) : Prop where
  closed : u.stream.queue.closed = true
  handed : Socket.Stream.handed history = Socket.Stream.handed earlier
  returned : ∀ turn ∈ calls later, ∀ bytes result,
    turn.effect.outcome = some (.sent bytes result) → result = .error .closed
  sends : ∀ now bytes target answer,
    (u.channel.send now bytes target answer).1 = .error .closed

/-- The counters of a connector that was fresh show what has happened since. -/
theorem counts_of_fresh {c : Connector} (fresh : c.Fresh) {now : Tick}
    {turns : List Traffic.Turn} {t : Traffic} (ran : Traffic.Run (.start c now) turns t)
    (counter : Counts.Counter) :
    t.connector.counts.get counter = .ofNat (Traffic.tally turns counter) := by
  have accounted : ∀ turn ∈ turns, turn.Accounted := fun turn member =>
    turn.accounted ((ran.keeps fresh.uniform).2 turn member).1.2
  have zero : c.counts.get counter = 0 := by
    rw [fresh.counts]
    cases counter <;> rfl
  have counted := ran.counts accounted counter
  rwa [Traffic.start, zero, UInt64.zero_add] at counted

theorem send_of_broken {e : Egress} (broken : Broken e.stream) (now : Tick) (bytes : Octets)
    (target : Option Net.Address) (answer : Net.Address → Except Net.Fault Unit) :
    (e.channel.send now bytes target answer).1 = .error .closed := by
  simp only [channel, Channel.send, Socket.send, broken.send, Connector.send,
    Connector.conclude]
  split <;> rfl

theorem silenced {s : Socket.Stream} {t : Traffic} {earlier later : List Event} {u : Egress}
    (ran : Run ⟨t, s⟩ (earlier ++ later) u)
    (failed : Socket.Stream.failed (history s earlier) = true) :
    Silenced (history s earlier) (history s (earlier ++ later)) later u := by
  obtain ⟨m, first, last⟩ := ran.split
  have then_ : m.stream = s.run (passed earlier) := first.passed
  have broken : Broken m.stream := then_ ▸ Broken.of_failed s _ failed
  obtain ⟨still, unwritten, -⟩ := broken.turns (passed later)
  rw [← last.passed] at still
  refine ⟨still.closed, ?_, last.refuses broken, send_of_broken still⟩
  have cut : history s (earlier ++ later) =
      history s earlier ++ m.stream.turns (passed later) := by
    rw [history, passed, List.flatMap_append, Socket.Stream.turns_append, then_]
    rfl
  rw [cut, Socket.Stream.handed, List.flatMap_append, ← Socket.Stream.handed,
    ← Socket.Stream.handed, unwritten, List.append_nil]

/-- A connector for media over a stream. -/
def exampleLine : Connector :=
  { example13 with transport := .tcp }

theorem exampleLine_fresh : exampleLine.Fresh :=
  ⟨rfl, example13_fresh.filter, rfl, example13_fresh.uniform⟩

/-- **From the calls on a connector to the wire.**  On a fresh connector over a stream that has
just been connected, whatever calls are made, whatever the writer does between their turns and
however the host answers to its writes: the host gets whole packets of sends that returned
without an error, in order, but for the last one; the sends that it does not get are those that
the counters show as dropped and those that are pending; and a write that fails is the end of
it. -/
theorem conveyed {c : Connector} (fresh : c.Fresh) {now : Tick} {peer : Net.Address}
    {capacity : Nat} {events : List Event} {u : Egress}
    (ran : Run (start c now peer capacity) events u) :
    let s := Socket.Stream.start peer capacity
    Conveyed (history s events) (Traffic.sent (calls events)) capacity u ∧
      ∀ earlier later, events = earlier ++ later →
        Socket.Stream.failed (history s earlier) = true →
          Silenced (history s earlier) (history s events) later u := by
  intro s
  refine ⟨?_, fun earlier later cut failed => ?_⟩
  · obtain ⟨sent, answered⟩ := ran.agrees
    have stream : u.stream = s.run (passed events) := ran.passed
    have room : 0 < s.queue.capacity := Nat.lt_of_lt_of_le Nat.zero_lt_one (Nat.le_max_right ..)
    have sendPkts : u.traffic.connector.counts.sendPkts =
        .ofNat (Traffic.sent (calls events)).length := counts_of_fresh fresh ran.calls .sendPkts
    have droppedPkts : u.traffic.connector.counts.droppedPkts =
        .ofNat (Socket.Stream.dropped (history s events)).length := by
      refine (counts_of_fresh fresh ran.calls .droppedPkts).trans (congrArg UInt64.ofNat ?_)
      rw [Traffic.tally, answered]
      exact (Socket.Stream.length_dropped _ s room).symm
    refine ⟨?_, ?_, sendPkts, droppedPkts, ?_, fun going => ?_⟩
    · rw [stream]
      exact Socket.Stream.wired_start peer capacity (passed events)
    · rw [sent]
      exact Socket.Stream.taken_sublist peer capacity (passed events)
    · rw [stream]
      exact Socket.Stream.length_pending peer capacity (passed events)
    · have whole := Socket.Stream.conserved peer capacity (passed events) going
      rw [← stream] at whole
      have told := sent.trans whole
      have gone := Socket.Stream.length_departures (Socket.Stream.departures (history s events))
      have many : (Traffic.sent (calls events)).length =
          (Socket.Stream.taken (history s events)).length +
            (Socket.Stream.dropped (history s events)).length + u.stream.queue.items.length := by
        rw [told, List.length_append, List.length_map]
        exact congrArg (· + _) gone
      refine ⟨told, many, ?_⟩
      rw [sendPkts, many, UInt64.ofNat_add, UInt64.ofNat_add, droppedPkts]
  · subst cut
    exact silenced ran failed

/-- A packet is cut short after two octets while two others are sent, of which the second
displaces the first; the next one comes too late. -/
theorem conveyed_until_cut :
    exampleLine.Fresh ∧ ∃ earlier later u,
      Run (start exampleLine 0 exampleAddress 0) (earlier ++ later) u ∧
        passed earlier = [.send [1, 2, 3], .fetch, .write (.accepted 2), .send [4], .send [5],
          .write (.accepted 0)] ∧
        passed later = [.send [6]] ∧
        let s := Socket.Stream.start exampleAddress 0
        Conveyed (history s (earlier ++ later)) (Traffic.sent (calls (earlier ++ later))) 0 u ∧
          Silenced (history s earlier) (history s (earlier ++ later)) later u ∧
          Traffic.sent (calls (earlier ++ later)) = [[1, 2, 3], [4], [5]] ∧
          Socket.Stream.handed (history s (earlier ++ later)) = [1, 2] := by
  obtain ⟨earlier, m, first, before, opened⟩ :=
    exists_run (e := start exampleLine 0 exampleAddress 0) rfl
      [.send [1, 2, 3], .fetch, .write (.accepted 2), .send [4], .send [5], .write (.accepted 0)]
      (by simp)
  obtain ⟨later, u, last, since, -⟩ := exists_run opened [.send [6]] (by simp)
  have ran := first.append last
  have failed : Socket.Stream.failed
      (history (Socket.Stream.start exampleAddress 0) earlier) = true := by
    rw [history, before]
    rfl
  have way : history (Socket.Stream.start exampleAddress 0) (earlier ++ later) =
      Socket.Stream.turns (.start exampleAddress 0) [.send [1, 2, 3], .fetch,
        .write (.accepted 2), .send [4], .send [5], .write (.accepted 0), .send [6]] := by
    rw [history, passed, List.flatMap_append, ← passed, ← passed, before, since]
    rfl
  obtain ⟨whole, after⟩ := conveyed exampleLine_fresh ran
  refine ⟨exampleLine_fresh, earlier, later, u, ran, before, since, whole,
    after earlier later rfl failed, ?_, ?_⟩
  · rw [ran.agrees.1]
    exact congrArg Socket.Stream.sent way
  · rw [way]
    rfl

end Egress

end MediaTransport
