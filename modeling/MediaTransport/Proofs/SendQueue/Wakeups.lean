/-
# MediaTransport.Proofs.SendQueue.Wakeups -- no pop sleeps beside a packet

A notification wakes one pop, and of the notifications that nobody waits for only one is
kept.  So there may be fewer notifications than packets, a pop may take a packet that
another was woken for, and a pop that was woken may be given up.  Still no packet stays
behind while all pops sleep (`no_pop_sleeps`).

What is known of a pop is read off the history: it is `Pending` if its last poll said so and
it was not given up since, and `Woken` if it was notified since its last poll.  The state
agrees with the history about both (`mem_line_iff_pending`, `woken_of_mem`).

The invariant is `Attended`: while an open queue has pops in line, it has woken as many pops
as it has packets.  It begins to hold when the first pop gets in line, for want of a packet;
from then on every packet comes with a notification, and a pop that acts on its notification
takes a packet or finds none.

A use of the queue is one step here, as it is for pops polled by one task after the other.
Two pops that look for a packet at the same moment, on two threads, are not considered.
-/
import Mathlib.Data.List.Induction
import Mathlib.Data.List.Nodup
import MediaTransport.Proofs.SendQueue.History

namespace MediaTransport.SendQueue

set_option autoImplicit false

/-! ## The line -/

/-- The pops under way: those in line and those that were notified. -/
def line (q : SendQueue) : List String :=
  q.waiting ++ q.woken

section Notify

variable {q : SendQueue} {pop : String}

theorem notify_line_perm (q : SendQueue) : q.notify.line.Perm q.line := by
  unfold notify line
  split
  · rename_i first rest found
    rw [found, List.cons_append, ← List.append_assoc]
    exact List.perm_append_singleton first (rest ++ q.woken)
  · exact List.Perm.refl _

theorem push_line_perm (q : SendQueue) (packet : Octets) : (q.push packet).2.line.Perm q.line :=
  notify_line_perm _

theorem close_line_perm (q : SendQueue) : q.close.line.Perm q.line :=
  notify_line_perm _

theorem mem_woken_notify (member : pop ∈ q.woken) : pop ∈ q.notify.woken := by
  unfold notify
  split
  · exact List.mem_append_left _ member
  · exact member

theorem mem_waiting_or_woken_of_notify (member : pop ∈ q.notify.woken) :
    pop ∈ q.waiting ∨ pop ∈ q.woken := by
  unfold notify at member
  split at member
  · rename_i first rest found
    rcases List.mem_append.1 member with old | new
    · exact .inr old
    · exact .inl (by rw [found, List.mem_singleton.1 new]; exact List.mem_cons_self)
  · exact .inr member

theorem mem_waiting_of_notify (member : pop ∈ q.notify.waiting) : pop ∈ q.waiting := by
  unfold notify at member
  split at member
  · rename_i first rest found
    rw [found]
    exact List.mem_cons_of_mem first member
  · exact member

/-- A notification makes up for one packet. -/
theorem length_woken_notify {n : Nat} (enough : q.waiting ≠ [] → n ≤ q.woken.length + 1)
    (left : q.notify.waiting ≠ []) : n ≤ q.notify.woken.length := by
  unfold notify at left ⊢
  split at left
  · rename_i first rest found
    simp only [List.length_append, List.length_singleton]
    exact enough (by simp [found])
  · rename_i nobody
    exact absurd nobody left

end Notify

/-! ## What a poll or a cancellation does to the line -/

/-- All that a poll of a pop can do. -/
inductive Polling (q : SendQueue) (pop : String) : Poll × SendQueue → Prop where
  /-- A pop in line stays there. -/
  | stays (inLine : pop ∈ q.waiting) : Polling q pop (.pending, q)
  | ends (out : pop ∉ q.waiting) (closed : q.closed = true) :
      Polling q pop (.ready none, { q with woken := q.woken.filter (· != pop) })
  | takes {packet : Octets} {rest : List Octets} (out : pop ∉ q.waiting)
      (opened : q.closed = false) (found : q.items = packet :: rest) :
      Polling q pop
        (.ready (some packet), { q with items := rest, woken := q.woken.filter (· != pop) })
  | waits (out : pop ∉ q.waiting) (opened : q.closed = false) (empty : q.items = []) :
      Polling q pop
        (.pending,
          { q with
            permit := false
            waiting := q.waiting ++ [pop]
            woken := q.woken.filter (· != pop) })

theorem polling (q : SendQueue) (pop : String) : Polling q pop (q.poll pop) := by
  unfold poll look
  split
  · rename_i inLine
    exact .stays (by simpa using inLine)
  · rename_i out
    have out : pop ∉ q.waiting := by simpa using out
    simp only
    split
    · rename_i closed
      exact .ends out closed
    · rename_i opened
      have opened : q.closed = false := by simpa using opened
      split
      · rename_i found
        exact .takes out opened found
      · rename_i empty
        exact .waits out opened empty

/-- All that giving up a pop can do. -/
inductive Cancelling (q : SendQueue) (pop : String) : Bool × SendQueue → Prop where
  | leaves (inLine : pop ∈ q.waiting) :
      Cancelling q pop (true, { q with waiting := q.waiting.filter (· != pop) })
  /-- A pop that was notified passes that on. -/
  | passesOn (out : pop ∉ q.waiting) (notified : pop ∈ q.woken) :
      Cancelling q pop (true, notify { q with woken := q.woken.filter (· != pop) })
  | unknown (out : pop ∉ q.line) : Cancelling q pop (false, q)

theorem cancelling (q : SendQueue) (pop : String) : Cancelling q pop (q.cancel pop) := by
  unfold cancel
  split
  · rename_i inLine
    exact .leaves (by simpa using inLine)
  · rename_i out
    have out : pop ∉ q.waiting := by simpa using out
    split
    · rename_i notified
      exact .passesOn out (by simpa using notified)
    · rename_i idle
      exact .unknown (by simpa [line, out] using idle)

/-! ## The invariant -/

/-- No pop is in line twice, and while pops are in line as many are awake as there are
packets. -/
structure Attended (q : SendQueue) : Prop where
  nodup : q.line.Nodup
  enough : q.closed = false → q.waiting ≠ [] → q.items.length ≤ q.woken.length

namespace Attended

variable {q : SendQueue}

theorem start (capacity : Nat) : Attended (start capacity) :=
  ⟨List.nodup_nil, fun _ some_ => absurd rfl some_⟩

theorem not_mem_woken (attended : Attended q) {pop : String} (inLine : pop ∈ q.waiting) :
    pop ∉ q.woken :=
  fun woken => (List.nodup_append.1 attended.nodup).2.2 pop inLine pop woken rfl

/-- Whoever leaves takes no more than one place. -/
theorem length_filter (attended : Attended q) (pop : String) :
    q.woken.length ≤ (q.woken.filter (· != pop)).length + 1 := by
  have nodup : q.woken.Nodup := (List.nodup_append.1 attended.nodup).2.1
  rw [← nodup.erase_eq_filter pop, List.length_erase]
  split <;> omega

theorem nodup_filter (attended : Attended q) (pop : String) :
    (q.waiting ++ q.woken.filter (· != pop)).Nodup :=
  attended.nodup.sublist (List.Sublist.append (List.Sublist.refl _) List.filter_sublist)

theorem notify {q : SendQueue} (nodup : q.line.Nodup)
    (enough : q.closed = false → q.waiting ≠ [] → q.items.length ≤ q.woken.length + 1) :
    Attended q.notify := by
  refine ⟨(notify_line_perm q).nodup_iff.2 nodup, fun opened left => ?_⟩
  rw [notify_items]
  rw [notify_closed] at opened
  exact length_woken_notify (enough opened) left

theorem step (attended : Attended q) (op : Op) : Attended (q.step op).2 := by
  obtain ⟨nodup, enough⟩ := attended
  cases op with
  | push packet =>
      refine Attended.notify nodup fun opened some_ => ?_
      have awake := enough opened some_
      simp only [List.length_append, List.length_drop, List.length_singleton]
      omega
  | close =>
      exact Attended.notify nodup fun opened => by cases opened
  | poll pop =>
      have told := polling q pop
      simp only [SendQueue.step]
      generalize q.poll pop = result at told ⊢
      have fewer := Attended.length_filter ⟨nodup, enough⟩ pop
      have distinct := Attended.nodup_filter ⟨nodup, enough⟩ pop
      cases told with
      | stays inLine => exact ⟨nodup, enough⟩
      | ends out closed =>
          exact ⟨distinct, fun opened => absurd opened (by simp [closed])⟩
      | @takes packet rest out opened found =>
          refine ⟨distinct, fun _ some_ => ?_⟩
          have awake := enough opened some_
          rw [found, List.length_cons] at awake
          show rest.length ≤ (q.woken.filter (· != pop)).length
          omega
      | waits out opened empty =>
          refine ⟨?_, fun _ _ => by simp [empty]⟩
          have apart : pop ∉ q.waiting ++ q.woken.filter (· != pop) := by simp [out]
          have moved : ((q.waiting ++ [pop]) ++ q.woken.filter (· != pop)).Perm
              (pop :: (q.waiting ++ q.woken.filter (· != pop))) := by
            rw [List.append_assoc]
            exact List.perm_middle
          exact moved.nodup_iff.2 (List.nodup_cons.2 ⟨apart, distinct⟩)
  | cancel pop =>
      have told := cancelling q pop
      simp only [SendQueue.step]
      generalize q.cancel pop = result at told ⊢
      cases told with
      | leaves inLine =>
          refine ⟨nodup.sublist
            (List.Sublist.append List.filter_sublist (List.Sublist.refl _)), ?_⟩
          intro opened some_
          refine enough opened fun nobody => some_ ?_
          simp [nobody]
      | passesOn out notified =>
          refine Attended.notify (Attended.nodup_filter ⟨nodup, enough⟩ pop) fun opened some_ => ?_
          have awake := enough opened some_
          have fewer := Attended.length_filter ⟨nodup, enough⟩ pop
          simp only at awake fewer ⊢
          omega
      | unknown out => exact ⟨nodup, enough⟩

theorem run (attended : Attended q) (ops : List Op) : Attended (q.run ops) := by
  induction ops generalizing q with
  | nil => exact attended
  | cons op ops ih => exact ih (attended.step op)

/-- A packet in an open queue with pops under way has woken one of them. -/
theorem exists_woken (attended : Attended q) (opened : q.closed = false) (some_ : q.items ≠ [])
    {pop : String} (underWay : pop ∈ q.line) : ∃ other, other ∈ q.woken := by
  rcases List.mem_append.1 underWay with inLine | woken
  · have awake := attended.enough opened (List.ne_nil_of_mem inLine)
    have packets := List.length_pos_of_ne_nil some_
    exact List.exists_mem_of_length_pos (by omega)
  · exact ⟨pop, woken⟩

end Attended

/-! ## What a history says of a pop -/

/-- Something has happened, and nothing since that would undo it. -/
def Since (event undone : Turn → Prop) (history : List Turn) : Prop :=
  ∃ earlier turn later, history = earlier ++ turn :: later ∧ event turn ∧
    ∀ t ∈ later, ¬ undone t

theorem since_concat {event undone : Turn → Prop} {history : List Turn} {turn : Turn} :
    Since event undone (history ++ [turn]) ↔
      event turn ∨ Since event undone history ∧ ¬ undone turn := by
  constructor
  · rintro ⟨earlier, t, later, cut, happened, quiet⟩
    rcases List.eq_nil_or_concat later with rfl | ⟨before, last, rfl⟩
    · obtain ⟨-, same⟩ := List.append_inj' cut rfl
      cases same
      exact .inl happened
    · rw [List.concat_eq_append, ← List.cons_append, ← List.append_assoc] at cut
      obtain ⟨front, same⟩ := List.append_inj' cut rfl
      cases same
      have still : ∀ s ∈ before, ¬ undone s := fun s member => quiet s (by simp [member])
      exact .inr ⟨⟨earlier, t, before, front, happened, still⟩, quiet turn (by simp)⟩
  · rintro (happened | ⟨⟨earlier, t, later, rfl, happened, quiet⟩, still⟩)
    · exact ⟨history, turn, [], rfl, happened, by simp⟩
    · refine ⟨earlier, t, later ++ [turn], by simp, happened, fun s member => ?_⟩
      rcases List.mem_append.1 member with old | new
      · exact quiet s old
      · rw [List.mem_singleton.1 new]
        exact still

namespace Turn

/-- The pop is polled and has to wait. -/
def Suspends (pop : String) (turn : Turn) : Prop :=
  turn.op = .poll pop ∧ turn.answer = .polled .pending

/-- The pop is polled or given up. -/
def Concerns (pop : String) (turn : Turn) : Prop :=
  turn.op = .poll pop ∨ turn.op = .cancel pop

/-- The pop is in line and gets notified. -/
def Wakes (pop : String) (turn : Turn) : Prop :=
  pop ∈ turn.before.waiting ∧ pop ∈ turn.after.woken

end Turn

/-- The last poll of a pop said that it has to wait, and it was not given up since. -/
def Pending (history : List Turn) (pop : String) : Prop :=
  Since (Turn.Suspends pop) (Turn.Concerns pop) history

/-- A pop was notified and not polled since. -/
def Woken (history : List Turn) (pop : String) : Prop :=
  Since (Turn.Wakes pop) (fun turn => turn.op = .poll pop) history

namespace Turn

variable {turn : Turn} {pop : String}

theorem mem_line_iff (attended : Attended turn.before) :
    pop ∈ turn.after.line ↔
      turn.Suspends pop ∨ pop ∈ turn.before.line ∧ ¬ turn.Concerns pop := by
  obtain ⟨q, op⟩ := turn
  cases op with
  | push packet =>
      have kept := (push_line_perm q packet).mem_iff (a := pop)
      simp [Suspends, Concerns, after, SendQueue.step, kept]
  | close =>
      have kept := (close_line_perm q).mem_iff (a := pop)
      simp [Suspends, Concerns, after, SendQueue.step, kept]
  | poll other =>
      have told := polling q other
      simp only [Suspends, Concerns, answer, after, SendQueue.step]
      generalize q.poll other = result at told ⊢
      by_cases same : pop = other
      · subst same
        cases told <;> simp_all [line]
      · have same' : other ≠ pop := fun e => same e.symm
        cases told <;> simp_all [line]
  | cancel other =>
      have told := cancelling q other
      have apart : other ∈ q.waiting → other ∉ q.woken := attended.not_mem_woken
      simp only [Suspends, Concerns, answer, after, SendQueue.step]
      generalize q.cancel other = result at told ⊢
      have kept := fun q => (notify_line_perm q).mem_iff (a := pop)
      by_cases same : pop = other
      · subst same
        cases told <;> simp_all [line]
      · have same' : other ≠ pop := fun e => same e.symm
        cases told <;> simp_all [line]

/-- A pop that is awake was notified in this turn, or before and has not been polled. -/
theorem wakes_of_mem (woken : pop ∈ turn.after.woken) :
    turn.Wakes pop ∨ pop ∈ turn.before.woken ∧ turn.op ≠ .poll pop := by
  have notified : pop ∈ turn.before.waiting → turn.Wakes pop := fun inLine => ⟨inLine, woken⟩
  obtain ⟨q, op⟩ := turn
  cases op with
  | push packet =>
      exact (mem_waiting_or_woken_of_notify woken).imp notified fun old => ⟨old, by simp⟩
  | close =>
      exact (mem_waiting_or_woken_of_notify woken).imp notified fun old => ⟨old, by simp⟩
  | poll other =>
      have told := polling q other
      simp only [after, SendQueue.step] at woken
      generalize q.poll other = result at told woken
      cases told with
      | stays inLine =>
          by_cases same : other = pop
          · exact .inl (notified (same ▸ inLine))
          · exact .inr ⟨woken, by simpa using same⟩
      | _ =>
          obtain ⟨old, apart⟩ := List.mem_filter.1 woken
          refine .inr ⟨old, fun same => ?_⟩
          cases same
          simp at apart
  | cancel other =>
      have told := cancelling q other
      simp only [after, SendQueue.step] at woken
      generalize q.cancel other = result at told woken
      cases told with
      | passesOn out _ =>
          rcases mem_waiting_or_woken_of_notify woken with inLine | kept
          · exact .inl (notified inLine)
          · exact .inr ⟨(List.mem_filter.1 kept).1, by simp⟩
      | _ => exact .inr ⟨woken, by simp⟩

/-- A pop stays awake until it is polled or given up. -/
theorem mem_woken_after (woken : pop ∈ turn.before.woken) (apart : ¬ turn.Concerns pop) :
    pop ∈ turn.after.woken := by
  obtain ⟨q, op⟩ := turn
  cases op with
  | push packet => exact mem_woken_notify (q := { q with items := _ }) woken
  | close => exact mem_woken_notify (q := { q with closed := true, items := [] }) woken
  | poll other =>
      have told := polling q other
      have other_ : pop ≠ other := fun same => apart (.inl (by rw [same]))
      have kept : pop ∈ q.woken.filter (· != other) := by simp [woken, other_]
      simp only [after, SendQueue.step]
      generalize q.poll other = result at told ⊢
      cases told with
      | stays inLine => exact woken
      | _ => exact kept
  | cancel other =>
      have told := cancelling q other
      have other_ : pop ≠ other := fun same => apart (.inr (by rw [same]))
      have kept : pop ∈ q.woken.filter (· != other) := by simp [woken, other_]
      simp only [after, SendQueue.step]
      generalize q.cancel other = result at told ⊢
      cases told with
      | passesOn out notified => exact mem_woken_notify kept
      | _ => exact woken

end Turn

section Histories

variable (capacity : Nat) (ops : List Op) (pop : String)

theorem attended_run : Attended ((start capacity).run ops) :=
  (Attended.start capacity).run ops

/-- The pops under way are those that the history says are pending. -/
theorem mem_line_iff_pending :
    pop ∈ ((start capacity).run ops).line ↔ Pending (turns (start capacity) ops) pop := by
  -- On the last use, since that is what the history is read from.
  induction ops using List.reverseRecOn with
  | nil =>
      have never : ¬ Pending (turns (start capacity) []) pop := by
        rintro ⟨earlier, turn, later, cut, -⟩
        simp [turns] at cut
      simpa [run, line, start] using never
  | append_singleton ops op ih =>
      have last := @Turn.mem_line_iff ⟨(start capacity).run ops, op⟩ pop (attended_run capacity ops)
      rw [turns_append, turns, turns, Pending, since_concat, ← Pending, ← ih, ← last, run_append]
      rfl

/-- Whoever is awake was woken, in the sense of the history. -/
theorem woken_of_mem (woken : pop ∈ ((start capacity).run ops).woken) :
    Woken (turns (start capacity) ops) pop := by
  induction ops using List.reverseRecOn with
  | nil => simp [run, start] at woken
  | append_singleton ops op ih =>
      rw [run_append] at woken
      rw [turns_append, turns, turns, Woken, since_concat, ← Woken]
      rcases @Turn.wakes_of_mem ⟨_, op⟩ pop woken with now | ⟨old, apart⟩
      · exact .inl now
      · exact .inr ⟨ih old, apart⟩

end Histories

/-! ## One pop at a time -/

/-- At no time in a history are two pops pending. -/
def Alone (q : SendQueue) (ops : List Op) : Prop :=
  ∀ earlier, earlier <+: ops → ∀ pop other, Pending (turns q earlier) pop →
    Pending (turns q earlier) other → pop = other

theorem poll_mem_of_pending {q : SendQueue} {ops : List Op} {pop : String}
    (pending : Pending (turns q ops) pop) : .poll pop ∈ ops := by
  obtain ⟨earlier, turn, later, cut, ⟨op, -⟩, -⟩ := pending
  have member : turn ∈ turns q ops := by simp [cut]
  obtain ⟨before, after, rfl, -⟩ := exists_run_of_mem_turns member
  simp [← op]

/-- Where all polls are of one pop, it is alone. -/
theorem alone_of_single (q : SendQueue) {ops : List Op} (pop : String)
    (single : ∀ other, .poll other ∈ ops → other = pop) : Alone q ops := by
  intro earlier part first second pending pending'
  have one := single first (part.subset (poll_mem_of_pending pending))
  have two := single second (part.subset (poll_mem_of_pending pending'))
  exact one.trans two.symm

/-- A queue whose closing has reached all pops. -/
def Dismissed (q : SendQueue) : Prop :=
  q.closed = true → q.waiting = []

theorem Dismissed.notify {q : SendQueue} (dismissed : Dismissed q) : Dismissed q.notify := by
  intro closed
  rw [notify_closed] at closed
  exact List.eq_nil_iff_forall_not_mem.2 fun pop left => by
    simpa [dismissed closed] using mem_waiting_of_notify left

theorem Dismissed.step {q : SendQueue} (dismissed : Dismissed q)
    (few : ∀ pop ∈ q.waiting, ∀ other ∈ q.waiting, pop = other) (attended : Attended q)
    (op : Op) : Dismissed (q.step op).2 := by
  cases op with
  | push packet => exact Dismissed.notify (q := { q with items := _ }) dismissed
  | close =>
      -- The notification goes to the only pop in line.
      intro _
      show (SendQueue.notify { q with closed := true, items := [] }).waiting = []
      have distinct := (List.nodup_append.1 attended.nodup).1
      unfold SendQueue.notify
      split
      · rename_i first rest found
        simp only at found
        refine List.eq_nil_iff_forall_not_mem.2 fun other member => ?_
        have same := few first (by simp [found]) other (by simp [found, member])
        rw [found] at distinct
        exact (List.nodup_cons.1 distinct).1 (same ▸ member)
      · rename_i nobody
        exact nobody
  | poll pop =>
      have told := polling q pop
      simp only [SendQueue.step]
      generalize q.poll pop = result at told ⊢
      cases told with
      | waits out opened empty => exact fun closed => absurd closed (by simp [opened])
      | _ => exact dismissed
  | cancel pop =>
      have told := cancelling q pop
      simp only [SendQueue.step]
      generalize q.cancel pop = result at told ⊢
      cases told with
      | leaves inLine => exact fun closed => by simp [dismissed closed]
      | passesOn out notified =>
          exact Dismissed.notify (q := { q with woken := _ }) dismissed
      | unknown out => exact dismissed

theorem dismissed_run {capacity : Nat} {ops : List Op} (alone : Alone (start capacity) ops) :
    Dismissed ((start capacity).run ops) := by
  induction ops using List.reverseRecOn with
  | nil => exact fun _ => rfl
  | append_singleton ops op ih =>
      have before : Alone (start capacity) ops := fun earlier part =>
        alone earlier (part.trans (List.prefix_append ops [op]))
      have few : ∀ pop ∈ ((start capacity).run ops).waiting,
          ∀ other ∈ ((start capacity).run ops).waiting, pop = other := by
        intro pop inLine other inLine'
        refine before ops List.prefix_rfl pop other ?_ ?_
        · exact (mem_line_iff_pending capacity ops pop).1 (List.mem_append_left _ inLine)
        · exact (mem_line_iff_pending capacity ops other).1 (List.mem_append_left _ inLine')
      rw [run_append]
      exact (ih before).step few (attended_run capacity ops) op

/-- A poll of a closed queue ends a pop that is not in line. -/
theorem poll_of_closed {q : SendQueue} {pop : String} (closed : q.closed = true)
    (out : pop ∉ q.waiting) : (q.poll pop).1 = .ready none := by
  have told := polling q pop
  generalize q.poll pop = result at told ⊢
  cases told with
  | stays inLine => exact absurd inLine out
  | ends => rfl
  | takes _ opened | waits _ opened => exact absurd closed (by simp [opened])

theorem mem_woken_run {q : SendQueue} {pop : String} (woken : pop ∈ q.woken) {ops : List Op}
    (apart : ∀ op ∈ ops, op ≠ .poll pop ∧ op ≠ .cancel pop) : pop ∈ (q.run ops).woken := by
  induction ops generalizing q with
  | nil => exact woken
  | cons op ops ih =>
      have first := apart op List.mem_cons_self
      have still : ¬ (Turn.mk q op).Concerns pop := by
        rintro (polled | cancelled)
        · exact first.1 polled
        · exact first.2 cancelled
      exact ih (Turn.mem_woken_after woken still) fun other member =>
        apart other (List.mem_cons_of_mem op member)

/-- **No pop sleeps beside a packet, and a close is not slept through.**  Whenever an open
queue has a packet and some pop is pending, a pending pop has been woken and not polled
since.  Where there is one pop at a time, it has been woken whenever it is pending on a
closed queue, and whatever else happens meanwhile, its next poll says that the queue is
closed. -/
theorem no_pop_sleeps (capacity : Nat) (ops : List Op) :
    let history := turns (start capacity) ops
    let q := (start capacity).run ops
    (q.closed = false → q.items ≠ [] → (∃ pop, Pending history pop) →
        ∃ pop, Pending history pop ∧ Woken history pop) ∧
      (Alone (start capacity) ops → q.closed = true → ∀ pop, Pending history pop →
        Woken history pop ∧
          ∀ later : List Op, (∀ op ∈ later, op ≠ .poll pop ∧ op ≠ .cancel pop) →
            ((q.run later).poll pop).1 = .ready none) := by
  have attended := attended_run capacity ops
  refine ⟨fun opened some_ ⟨pop, pending⟩ => ?_, fun alone closed pop pending => ?_⟩
  · have underWay := (mem_line_iff_pending capacity ops pop).2 pending
    obtain ⟨other, woken⟩ := attended.exists_woken opened some_ underWay
    refine ⟨other, ?_, woken_of_mem capacity ops other woken⟩
    exact (mem_line_iff_pending capacity ops other).1 (List.mem_append_right _ woken)
  · have nobody := dismissed_run alone closed
    have woken : pop ∈ ((start capacity).run ops).woken := by
      have underWay := (mem_line_iff_pending capacity ops pop).2 pending
      simpa [line, nobody] using underWay
    refine ⟨woken_of_mem capacity ops pop woken, fun later apart => ?_⟩
    have still := mem_woken_run woken apart
    have kept := attended.run later
    exact poll_of_closed (run_closed closed later) fun inLine => kept.not_mem_woken inLine still

/-- The first of two pops is woken and given up, so the second is awake beside the packet;
and a pop that is alone is awake after a close. -/
theorem woken_by_cancel_and_by_close :
    let ops : List Op := [.poll "a", .poll "b", .push [1], .cancel "a"]
    (Pending (turns (start 1) ops) "b" ∧
        ∃ pop, Pending (turns (start 1) ops) pop ∧ Woken (turns (start 1) ops) pop) ∧
      Pending (turns (start 1) [.poll "a", .close]) "a" ∧
        Woken (turns (start 1) [.poll "a", .close]) "a" ∧
        (((start 1).run [.poll "a", .close, .push [1]]).poll "a").1 = .ready none := by
  intro ops
  have asleep : Pending (turns (start 1) ops) "b" :=
    (mem_line_iff_pending 1 ops "b").1 (by decide)
  have waits : Pending (turns (start 1) [.poll "a", .close]) "a" :=
    (mem_line_iff_pending 1 _ "a").1 (by decide)
  have alone : Alone (start 1) [.poll "a", .close] :=
    alone_of_single (start 1) "a" (by simp)
  obtain ⟨woken, ends⟩ := (no_pop_sleeps 1 [.poll "a", .close]).2 alone rfl "a" waits
  refine ⟨⟨asleep, (no_pop_sleeps 1 ops).1 rfl (by decide) ⟨"b", asleep⟩⟩, waits, woken, ?_⟩
  exact ends [.push [1]] (by simp)

end MediaTransport.SendQueue
