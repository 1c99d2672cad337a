/-
# MediaTransport.Proofs.SendQueue.History -- what each use of a queue does to its packets

A history of uses is cut into turns: a use with the queue before it.  Beside it stand
the laws of the operations that are about packets, not about who is woken: a
notification touches none, a push keeps what is behind the excess and adds one at the
end, and a poll takes the first packet of an open queue or takes nothing
(`poll_cases`).  Whoever reasons about packets cites these and opens no operation.

A queue that is closed stays closed (`run_closed`), and a poll of it returns no packet
(`Turn.returns_none_of_closed`).
-/
import MediaTransport.SendQueue

namespace MediaTransport.SendQueue

set_option autoImplicit false

/-! ## One operation -/

section Operations

variable (q : SendQueue) (pop : String) (packet : Octets)

@[simp] theorem notify_items : q.notify.items = q.items := by
  unfold notify
  split <;> rfl

@[simp] theorem notify_closed : q.notify.closed = q.closed := by
  unfold notify
  split <;> rfl

@[simp] theorem notify_capacity : q.notify.capacity = q.capacity := by
  unfold notify
  split <;> rfl

/-- How many packets a push drops: those that leave no room for one more. -/
theorem push_dropped : (q.push packet).1 = q.items.length + 1 - q.capacity := rfl

theorem push_items :
    (q.push packet).2.items = q.items.drop (q.push packet).1 ++ [packet] := by
  simp [push]

@[simp] theorem push_closed : (q.push packet).2.closed = q.closed := by
  simp [push]

@[simp] theorem push_capacity : (q.push packet).2.capacity = q.capacity := by
  simp [push]

@[simp] theorem close_items : q.close.items = [] := by
  simp [close]

@[simp] theorem close_closed : q.close.closed = true := by
  simp [close]

@[simp] theorem close_capacity : q.close.capacity = q.capacity := by
  simp [close]

@[simp] theorem cancel_items : (q.cancel pop).2.items = q.items := by
  unfold cancel
  split
  · rfl
  · split <;> simp

@[simp] theorem cancel_closed : (q.cancel pop).2.closed = q.closed := by
  unfold cancel
  split
  · rfl
  · split <;> simp

@[simp] theorem cancel_capacity : (q.cancel pop).2.capacity = q.capacity := by
  unfold cancel
  split
  · rfl
  · split <;> simp

@[simp] theorem poll_closed : (q.poll pop).2.closed = q.closed := by
  unfold poll look
  split
  · rfl
  · split
    · rfl
    · split <;> rfl

@[simp] theorem poll_capacity : (q.poll pop).2.capacity = q.capacity := by
  unfold poll look
  split
  · rfl
  · split
    · rfl
    · split <;> rfl

/-- All that a poll can do: it takes the first packet of an open queue, or it says
something else and leaves the packets alone. -/
theorem poll_cases :
    (∃ first rest, q.closed = false ∧ q.items = first :: rest ∧
        (q.poll pop).1 = .ready (some first) ∧ (q.poll pop).2.items = rest) ∨
      ((∀ first, (q.poll pop).1 ≠ .ready (some first)) ∧ (q.poll pop).2.items = q.items) := by
  unfold poll
  split
  · right; simp
  · unfold look
    simp only
    split
    · right; simp
    · rename_i opened
      split
      · rename_i first rest found
        left
        exact ⟨first, rest, by simpa using opened, found, rfl, rfl⟩
      · rename_i found
        right; simp [found]

end Operations

/-! ## Turns -/

/-- One use in a history, with the queue before it. -/
structure Turn where
  before : SendQueue
  op : Op

namespace Turn

def answer (turn : Turn) : Answer :=
  (turn.before.step turn.op).1

def after (turn : Turn) : SendQueue :=
  (turn.before.step turn.op).2

end Turn

/-- The turns of a history that begins with a queue. -/
def turns (q : SendQueue) : List Op → List Turn
  | [] => []
  | op :: ops => ⟨q, op⟩ :: turns (q.step op).2 ops

theorem run_cons (q : SendQueue) (op : Op) (ops : List Op) :
    q.run (op :: ops) = (q.step op).2.run ops := rfl

theorem run_append (q : SendQueue) (first last : List Op) :
    q.run (first ++ last) = (q.run first).run last := by
  simp [run, List.foldl_append]

theorem turns_append (q : SendQueue) (first last : List Op) :
    turns q (first ++ last) = turns q first ++ turns (q.run first) last := by
  induction first generalizing q with
  | nil => rfl
  | cons op first ih => simp [turns, ih, run_cons]

/-- The queue before any turn is what an earlier part of the history led to. -/
theorem exists_run_of_mem_turns {q : SendQueue} {ops : List Op} {turn : Turn}
    (member : turn ∈ turns q ops) :
    ∃ earlier later, ops = earlier ++ turn.op :: later ∧ turn.before = q.run earlier := by
  induction ops generalizing q with
  | nil => simp [turns] at member
  | cons op ops ih =>
      rcases List.mem_cons.1 member with rfl | inRest
      · exact ⟨[], ops, rfl, rfl⟩
      · obtain ⟨earlier, later, rfl, before⟩ := ih inRest
        exact ⟨op :: earlier, later, rfl, before⟩

/-! ## Closing is for good -/

theorem step_closed {q : SendQueue} (closed : q.closed = true) (op : Op) :
    (q.step op).2.closed = true := by
  cases op <;> simp [step, closed]

theorem run_closed {q : SendQueue} (closed : q.closed = true) (ops : List Op) :
    (q.run ops).closed = true := by
  induction ops generalizing q with
  | nil => exact closed
  | cons op ops ih => exact ih (step_closed closed op)

/-- A poll of a closed queue returns no packet. -/
theorem Turn.returns_none_of_closed {turn : Turn} (closed : turn.before.closed = true)
    (packet : Octets) : turn.answer ≠ .polled (.ready (some packet)) := by
  intro returned
  obtain ⟨q, op⟩ := turn
  cases op with
  | poll pop =>
      have said : (q.poll pop).1 = .ready (some packet) := by
        simpa [Turn.answer, step] using returned
      rcases poll_cases q pop with ⟨_, _, opened, -⟩ | ⟨silent, -⟩
      · exact absurd closed (by simp [opened])
      · exact silent packet said
  | _ => simp [Turn.answer, step] at returned

end MediaTransport.SendQueue
