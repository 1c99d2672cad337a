/-
# MediaTransport.Proofs.Limiter.Progress -- when a limiter has to permit

A limiter measures the time since its last permit modulo 2^32, so it refuses not only the calls
within the backoff but all those that come within the backoff after a whole number of rounds
of the clock.  The time at which it permits comes again in every round, and calls may miss it.

A new limiter pretends to have given a permit a little more than the backoff ago.  Its first
call is permitted if the clock has not come round since that date (`first_permitted_iff`); a
limiter that waits long enough for its first call refuses it, and the longer the backoff, the
sooner (`first_refused_after_wait`).

Calls that follow each other closely cannot step over the rest of the round, so one of them
is permitted (`permitted_unless_stepped_over`).  The call that matters is the first one past
the backoff: up to there all have been refused, and the last permit is still the old one
(`true_mem_answers_of_within`).
-/
import Mathlib.Data.List.Chain
import MediaTransport.Proofs.Limiter.Ideal

namespace MediaTransport.Limiter

set_option autoImplicit false

/-! ## The first call -/

/-- A call is permitted if the clock shows that the backoff is over. -/
theorem shouldRun_permits_iff {l : Limiter} {now : Tick} {age : Nat}
    (since : reading l.last age = now) :
    (l.shouldRun now).1 = true ↔ l.backoff.toNat < age % 2 ^ 32 := by
  by_cases beyond : l.backoff.toNat < age % 2 ^ 32
  · simp only [shouldRun_permits since beyond, beyond]
  · simp only [shouldRun_refuses since (Nat.not_lt.1 beyond), beyond, Bool.false_eq_true]

/-- **The first call of a limiter is permitted exactly if the clock has not come round since the
permit that the limiter begins with**, which lies one millisecond more than the backoff before
its making. -/
theorem first_permitted_iff (seconds nanoseconds : Nat) (begun : Tick) (delay : Nat) :
    ((start (milliseconds seconds nanoseconds) begun).shouldRun (reading begun delay)).1 = true ↔
      spacing (milliseconds seconds nanoseconds) + 1 + delay % 2 ^ 32 < 2 ^ 32 := by
  generalize milliseconds seconds nanoseconds = backoff
  have small := spacing_lt backoff
  have since : reading (start backoff begun).last (spacing backoff + 1 + delay) =
      reading begun delay := by
    rw [← reading_add, reading_start]
  rw [shouldRun_permits_iff since, toNat_backoff_start]
  omega

/-- With the longest backoff one millisecond is too long a wait. -/
theorem first_refused_after_wait :
    ¬ ∀ (seconds nanoseconds : Nat) (begun : Tick) (delay : Nat),
      ((start (milliseconds seconds nanoseconds) begun).shouldRun (reading begun delay)).1 =
        true := by
  intro always
  have refused :
      ((start (milliseconds 4294968 0) 0).shouldRun (reading 0 1)).1 = false := by decide
  exact Bool.false_ne_true (refused.symm.trans (always 4294968 0 0 1))

/-! ## Calls that follow each other -/

/-- The clock tells how long ago the last permit was, up to whole rounds. -/
theorem reading_sub (last now : Tick) : reading last (now - last).toNat = now := by
  rw [reading, UInt32.ofNat_toNat, UInt32.add_comm, UInt32.sub_add_cancel]

/-- Whether each call comes after the one before it and soon enough. -/
def Close (gap : Nat) (times : List Nat) : Prop :=
  times.IsChain fun earlier later => earlier ≤ later ∧ later ≤ earlier + gap

instance (gap : Nat) (times : List Nat) : Decidable (Close gap times) :=
  inferInstanceAs (Decidable (times.IsChain _))

section Calls

variable {l : Limiter} {begun : Tick} {gap : Nat}

/-- After a call within the backoff, the first one past it comes within the round. -/
theorem true_mem_answers_of_within (stays : gap + l.backoff.toNat < 2 ^ 32) {age t : Nat}
    {later : List Nat} (since : reading l.last age = reading begun t)
    (within : age ≤ l.backoff.toNat) (close : Close gap (t :: later))
    (long : t + l.backoff.toNat < (t :: later).getLast (List.cons_ne_nil _ _) + age) :
    true ∈ answers begun l later := by
  -- On the calls that are left; as long as they are refused the limiter stays the same.
  induction later generalizing age t with
  | nil =>
      rw [List.getLast_singleton] at long
      omega
  | cons next rest ih =>
      obtain ⟨⟨order, near⟩, close⟩ := List.isChain_cons_cons.1 close
      rw [List.getLast_cons (List.cons_ne_nil _ _)] at long
      have aged : reading l.last (age + (next - t)) = reading begun next := by
        rw [← reading_add, since, reading_add, Nat.add_sub_cancel' order]
      by_cases beyond : l.backoff.toNat < age + (next - t)
      · have round : (age + (next - t)) % 2 ^ 32 = age + (next - t) :=
          Nat.mod_eq_of_lt (by omega)
        rw [answers, shouldRun_permits aged (round.symm ▸ beyond)]
        exact List.mem_cons_self
      · have inside := Nat.not_lt.1 beyond
        rw [answers, shouldRun_refuses aged (Nat.le_trans (Nat.mod_le _ _) inside)]
        exact List.mem_cons_of_mem _ (ih aged inside close (by omega))

/-- **Of calls that follow each other closely and go on for more than the backoff, one is
permitted**: in whatever state the limiter is and wherever its clock stands, they cannot all
fall into the times at which it refuses. -/
theorem permitted_unless_stepped_over (l : Limiter) (begun : Tick) (first : Nat)
    (later : List Nat) (close : Close (2 ^ 32 - 1 - l.backoff.toNat) (first :: later))
    (long : first + l.backoff.toNat < (first :: later).getLast (List.cons_ne_nil _ _)) :
    true ∈ answers begun l (first :: later) := by
  have since := reading_sub l.last (reading begun first)
  have small := (reading begun first - l.last).toNat_lt
  have stays : 2 ^ 32 - 1 - l.backoff.toNat + l.backoff.toNat < 2 ^ 32 := by
    have := l.backoff.toNat_lt
    omega
  generalize (reading begun first - l.last).toNat = age at since small
  have round : age % 2 ^ 32 = age := Nat.mod_eq_of_lt small
  by_cases beyond : l.backoff.toNat < age
  · rw [answers, shouldRun_permits since (round.symm ▸ beyond)]
    exact List.mem_cons_self
  · have within := Nat.not_lt.1 beyond
    rw [answers, shouldRun_refuses since (round.symm ▸ within)]
    exact List.mem_cons_of_mem _
      (true_mem_answers_of_within stays since within close (Nat.lt_add_right _ long))

/-- The last call comes as late as it may, in the last millisecond of the round. -/
theorem permitted_at_end_of_round :
    let l := ((start (milliseconds 0 100000000) 4294967245).shouldRun 4294967245).2
    Close (2 ^ 32 - 1 - l.backoff.toNat) [0, 100, 4294967295] ∧
      0 + l.backoff.toNat < 4294967295 ∧
      answers 4294967245 l [0, 100, 4294967295] = [false, false, true] ∧
      true ∈ answers 4294967245 l [0, 100, 4294967295] := by
  intro l
  have close : Close (2 ^ 32 - 1 - l.backoff.toNat) [0, 100, 4294967295] := by decide
  have long : 0 + l.backoff.toNat < 4294967295 := by decide
  exact ⟨close, long, by decide, permitted_unless_stepped_over l 4294967245 0 _ close long⟩

end Calls

end MediaTransport.Limiter
