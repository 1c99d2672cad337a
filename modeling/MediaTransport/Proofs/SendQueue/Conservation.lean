/-
# MediaTransport.Proofs.SendQueue.Conservation -- no packet is lost, doubled or overtaken

A packet leaves a queue by a `Departure`: a pop returned it, or a push dropped it.
While the queue is open, the packets that have departed followed by those still queued
are exactly the packets pushed, in order (`items_append_pushed`): so each
pushed packet has departed once or is queued once, the queue holds the last ones, and
packets leave in the order in which they came, whichever way they leave.

The law of one turn (`Turn.balance`) carries the law of a history.  The only turn that
discards packets is a close, so without the assumption that the queue is open the same
argument leaves "is a part of, in order" instead of "is exactly" (`Turn.sublist`).

That a push drops at most one packet rests on the bound of the queue (`Bounded`).
-/
import MediaTransport.Proofs.SendQueue.History

namespace MediaTransport.SendQueue

set_option autoImplicit false

/-! ## Where packets go -/

/-- How a packet left the queue. -/
inductive Departure where
  | returned (pop : String) (packet : Octets)
  | dropped (packet : Octets)

namespace Departure

def packet : Departure → Octets
  | .returned _ packet => packet
  | .dropped packet => packet

/-- The packet, if a pop returned it. -/
def returned? : Departure → Option Octets
  | .returned _ packet => some packet
  | .dropped _ => none

end Departure

/-- The packets that leave in a turn, the oldest first: a push that answers with a
number has dropped that many of the oldest. -/
def Turn.departures (turn : Turn) : List Departure :=
  match turn.op, turn.answer with
  | .push _, .dropped count => (turn.before.items.take count).map .dropped
  | .poll pop, .polled (.ready (some packet)) => [.returned pop packet]
  | _, _ => []

/-- The packets that left in the course of a history. -/
def departed (history : List Turn) : List Departure :=
  history.flatMap Turn.departures

/-- The packets that pops returned in the course of a history. -/
def returned (history : List Turn) : List Octets :=
  (departed history).filterMap Departure.returned?

def Op.pushed? : Op → Option Octets
  | .push packet => some packet
  | _ => none

/-- The packets pushed in the course of a history. -/
def pushed (ops : List Op) : List Octets :=
  ops.filterMap Op.pushed?

theorem pushed_cons (op : Op) (ops : List Op) :
    pushed (op :: ops) = op.pushed?.toList ++ pushed ops := by
  cases op <;> rfl

/-! ## The law of a turn -/

/-- What a poll takes out is a departure; in either case nothing else changes. -/
theorem Turn.poll_balance (q : SendQueue) (pop : String) :
    q.items = (departures ⟨q, .poll pop⟩).map Departure.packet ++ (q.poll pop).2.items := by
  rcases poll_cases q pop with ⟨first, rest, -, found, said, left⟩ | ⟨silent, left⟩
  · simp [departures, answer, step, said, found, left, Departure.packet]
  · have nothing : departures ⟨q, .poll pop⟩ = [] := by
      rcases said : (q.poll pop).1 with _ | (_ | packet)
      · simp [departures, answer, step, said]
      · simp [departures, answer, step, said]
      · exact absurd said (silent packet)
    simp [nothing, left]

/-- In a turn that does not close the queue, what was queued and what is pushed has
departed or is queued. -/
theorem Turn.balance {turn : Turn} (open_ : turn.op ≠ .close) :
    turn.before.items ++ turn.op.pushed?.toList =
      turn.departures.map Departure.packet ++ turn.after.items := by
  obtain ⟨q, op⟩ := turn
  cases op with
  | push packet =>
      have split_ := List.take_append_drop (q.push packet).1 q.items
      simp only [after, step, departures, answer, Op.pushed?, Option.toList_some, push_items,
        List.map_map, ← List.append_assoc]
      rw [show Departure.packet ∘ Departure.dropped = id from rfl, List.map_id, split_]
  | close => exact absurd rfl open_
  | poll pop => simpa [Op.pushed?, after, step] using poll_balance q pop
  | cancel pop => simp [Op.pushed?, departures, after, step]

/-- Whatever the turn, nothing departs or is queued that was not there, and in order. -/
theorem Turn.sublist (turn : Turn) :
    (turn.departures.map Departure.packet ++ turn.after.items).Sublist
      (turn.before.items ++ turn.op.pushed?.toList) := by
  by_cases close : turn.op = .close
  · obtain ⟨q, op⟩ := turn
    subst close
    simp [departures, after, step]
  · have balance := Turn.balance close
    exact balance ▸ List.Sublist.refl _

/-! ## The law of a history -/

theorem departed_turns_cons (q : SendQueue) (op : Op) (ops : List Op) :
    departed (turns q (op :: ops)) =
      Turn.departures ⟨q, op⟩ ++ departed (turns (q.step op).2 ops) := by
  simp [departed, turns]

/-- While the queue is open, what was queued and what was pushed since has departed or
is queued, each packet once and in order. -/
theorem items_append_pushed {q : SendQueue} {ops : List Op}
    (opened : (q.run ops).closed = false) :
    q.items ++ pushed ops =
      (departed (turns q ops)).map Departure.packet ++ (q.run ops).items := by
  induction ops generalizing q with
  | nil => simp [pushed, departed, turns, run]
  | cons op ops ih =>
      have open_ : op ≠ .close := by
        rintro rfl
        have closed := run_closed (q.close_closed) ops
        exact absurd closed (by simpa [run_cons, step] using opened)
      have first := @Turn.balance ⟨q, op⟩ open_
      calc q.items ++ pushed (op :: ops)
          = (q.items ++ op.pushed?.toList) ++ pushed ops := by
            rw [pushed_cons, List.append_assoc]
        _ = (Turn.departures ⟨q, op⟩).map Departure.packet ++
              ((q.step op).2.items ++ pushed ops) := by
            rw [first, List.append_assoc]; rfl
        _ = (Turn.departures ⟨q, op⟩).map Departure.packet ++
              ((departed (turns (q.step op).2 ops)).map Departure.packet ++
                ((q.step op).2.run ops).items) := by
            rw [ih opened]
        _ = _ := by
            rw [departed_turns_cons, List.map_append, List.append_assoc, run_cons]

/-- Over any history, what departs is part of what was pushed, in order. -/
theorem departed_sublist (q : SendQueue) (ops : List Op) :
    ((departed (turns q ops)).map Departure.packet ++ (q.run ops).items).Sublist
      (q.items ++ pushed ops) := by
  induction ops generalizing q with
  | nil => simp [pushed, departed, turns, run]
  | cons op ops ih =>
      have first := Turn.sublist ⟨q, op⟩
      have rest := (ih (q.step op).2).append_left
        ((Turn.departures ⟨q, op⟩).map Departure.packet)
      rw [departed_turns_cons, List.map_append, List.append_assoc, run_cons, pushed_cons,
        ← List.append_assoc q.items]
      refine rest.trans ?_
      rw [← List.append_assoc]
      exact first.append_right (pushed ops)

theorem filterMap_returned_sublist (gone : List Departure) :
    (gone.filterMap Departure.returned?).Sublist (gone.map Departure.packet) := by
  induction gone with
  | nil => exact List.Sublist.refl _
  | cons departure gone ih =>
      cases departure with
      | returned pop packet => exact ih.cons_cons packet
      | dropped packet => exact ih.cons packet

/-- What pops return comes in the order in which it was pushed. -/
theorem returned_sublist (capacity : Nat) (ops : List Op) :
    (returned (turns (start capacity) ops)).Sublist (pushed ops) := by
  have whole := departed_sublist (start capacity) ops
  have some_of_all : (returned (turns (start capacity) ops)).Sublist _ :=
    filterMap_returned_sublist (departed (turns (start capacity) ops))
  simpa [start] using some_of_all.trans ((List.sublist_append_left _ _).trans whole)

/-! ## The bound -/

/-- A queue that keeps to a capacity. -/
structure Bounded (capacity : Nat) (q : SendQueue) : Prop where
  capacity_eq : q.capacity = capacity
  length_le : q.items.length ≤ capacity

theorem bounded_start (capacity : Nat) : Bounded (max capacity 1) (start capacity) :=
  ⟨rfl, by simp [start]⟩

theorem Bounded.step {capacity : Nat} {q : SendQueue} (bounded : Bounded capacity q)
    (room : 0 < capacity) (op : Op) : Bounded capacity (q.step op).2 := by
  obtain ⟨rfl, length_le⟩ := bounded
  cases op with
  | push packet =>
      refine ⟨by simp [SendQueue.step], ?_⟩
      simp only [SendQueue.step, push_items, push_dropped, List.length_append,
        List.length_drop, List.length_singleton]
      omega
  | close => exact ⟨by simp [SendQueue.step], by simp [SendQueue.step]⟩
  | poll pop =>
      refine ⟨by simp [SendQueue.step], ?_⟩
      rcases poll_cases q pop with ⟨first, rest, -, found, -, left⟩ | ⟨-, left⟩
      · simp only [found, List.length_cons] at length_le
        simp only [SendQueue.step, left]
        omega
      · simpa [SendQueue.step, left] using length_le
  | cancel pop => exact ⟨by simp [SendQueue.step], by simpa [SendQueue.step] using length_le⟩

theorem Bounded.run {capacity : Nat} {q : SendQueue} (bounded : Bounded capacity q)
    (room : 0 < capacity) (ops : List Op) : Bounded capacity (q.run ops) := by
  induction ops generalizing q with
  | nil => exact bounded
  | cons op ops ih => exact ih (bounded.step room op)

/-- A turn in which a packet is pushed into a queue of some capacity.  A full queue
drops its oldest packet and says so; any other queue keeps all it has. -/
def Turn.Pushes (capacity : Nat) (packet : Octets) (turn : Turn) : Prop :=
  (turn.before.items.length = capacity ∧
    ∃ oldest rest, turn.before.items = oldest :: rest ∧ turn.answer = .dropped 1 ∧
      turn.departures = [.dropped oldest] ∧ turn.after.items = rest ++ [packet]) ∨
  (turn.before.items.length < capacity ∧ turn.answer = .dropped 0 ∧ turn.departures = [] ∧
    turn.after.items = turn.before.items ++ [packet])

theorem Bounded.pushes {capacity : Nat} {q : SendQueue} (bounded : Bounded capacity q)
    (room : 0 < capacity) (packet : Octets) :
    Turn.Pushes capacity packet ⟨q, .push packet⟩ := by
  obtain ⟨rfl, length_le⟩ := bounded
  rcases Nat.lt_or_eq_of_le length_le with fits | full
  · have none_dropped : (q.push packet).1 = 0 := by rw [push_dropped]; omega
    right
    refine ⟨fits, ?_, ?_, ?_⟩
    · simp [Turn.answer, SendQueue.step, none_dropped]
    · simp [Turn.departures, Turn.answer, SendQueue.step, none_dropped]
    · simp [Turn.after, SendQueue.step, push_items, none_dropped]
  · have one_dropped : (q.push packet).1 = 1 := by rw [push_dropped]; omega
    obtain ⟨oldest, rest, found⟩ : ∃ oldest rest, q.items = oldest :: rest :=
      List.exists_cons_of_length_pos (by omega)
    left
    refine ⟨full, oldest, rest, found, ?_, ?_, ?_⟩
    · simp [Turn.answer, SendQueue.step, one_dropped]
    · simp [Turn.departures, Turn.answer, SendQueue.step, one_dropped, found]
    · simp [Turn.after, SendQueue.step, push_items, one_dropped, found]

/-- **No packet is lost, doubled or overtaken.**  In any history of a queue of a given
capacity, zero acting as one:

* the capacity is never exceeded;
* until the queue is closed, the packets that departed and those queued behind them are
  the packets pushed;
* pops return packets in the order of the pushes, before and after a close;
* a push drops the oldest packet of a full queue and answers one, or drops none and
  answers zero;
* giving a pop up leaves the packets alone;
* after a close no poll returns a packet. -/
theorem history_conserves (capacity : Nat) (ops : List Op) :
    let history := turns (start capacity) ops
    let q := (start capacity).run ops
    q.items.length ≤ max capacity 1 ∧
      (q.closed = false →
        pushed ops = (departed history).map Departure.packet ++ q.items) ∧
      (returned history).Sublist (pushed ops) ∧
      (∀ turn ∈ history, ∀ packet, turn.op = .push packet →
        turn.Pushes (max capacity 1) packet) ∧
      (∀ turn ∈ history, ∀ pop, turn.op = .cancel pop →
        turn.after.items = turn.before.items ∧ turn.departures = []) ∧
      (∀ earlier later, ops = earlier ++ .close :: later →
        ∀ turn ∈ turns ((start capacity).run (earlier ++ [.close])) later, ∀ packet,
          turn.answer ≠ .polled (.ready (some packet))) := by
  have room : 0 < max capacity 1 := by omega
  have bounded := (bounded_start capacity).run room
  refine ⟨(bounded ops).length_le, fun opened => ?_, returned_sublist capacity ops, ?_, ?_, ?_⟩
  · simpa [start] using items_append_pushed opened
  · rintro ⟨q, op⟩ member packet rfl
    obtain ⟨earlier, -, -, before⟩ := exists_run_of_mem_turns member
    subst before
    exact (bounded earlier).pushes room packet
  · rintro ⟨q, op⟩ - pop rfl
    exact ⟨by simp [Turn.after, step], by simp [Turn.departures]⟩
  · intro earlier later _ turn member packet
    obtain ⟨since, -, -, before⟩ := exists_run_of_mem_turns member
    have closed : ((start capacity).run (earlier ++ [.close])).closed = true := by
      rw [run_append]
      exact close_closed _
    exact Turn.returns_none_of_closed (before ▸ run_closed closed since) packet

end MediaTransport.SendQueue
