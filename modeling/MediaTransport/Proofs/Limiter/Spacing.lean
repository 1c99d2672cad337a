/-
# MediaTransport.Proofs.Limiter.Spacing -- no two permits within one backoff

A limiter measures time modulo 2^32, so a call that comes long after the last permit may look
as if it came soon, and is refused.  The converse does not happen: what has passed by the
clock is never more than what has passed in truth.  So any two permits are more than the
backoff apart in true time, however often the clock wraps between them, and a stretch of time
has room for only so many of them (`permits_spaced`).

`Timed` is a limiter on a clock that only moves forward, with the true time beside it, which
the limiter does not see.  The invariant is `Spaced`: by the true time no permit is younger
than the limiter has it by the clock.
-/
import MediaTransport.Proofs.Limiter.Elapsed

namespace MediaTransport.Limiter

set_option autoImplicit false

/-! ## A limiter and its clock -/

/-- What may happen to a limiter and its clock. -/
inductive Op where
  /-- Time passes, be it a moment or many rounds of the clock. -/
  | advance (milliseconds : Nat)
  | call

/-- A limiter on its clock. -/
structure Timed where
  limiter : Limiter
  /-- What the clock reads. -/
  now : Tick
  /-- The true time, in milliseconds since the limiter was made. -/
  elapsed : Nat := 0
  /-- The instants, in true time, of the calls that were permitted. -/
  permits : List Nat := []

namespace Timed

/-- A new limiter on a clock that reads `now`. -/
def start (backoff : Nat) (now : Tick) : Timed where
  limiter := Limiter.start backoff now
  now := now

def step (t : Timed) : Op → Timed
  | .advance milliseconds =>
    { t with now := reading t.now milliseconds, elapsed := t.elapsed + milliseconds }
  | .call =>
    let (permitted, limiter) := t.limiter.shouldRun t.now
    { t with
      limiter
      permits := if permitted then t.permits ++ [t.elapsed] else t.permits }

def run (t : Timed) (ops : List Op) : Timed :=
  ops.foldl step t

/-! ## What every step keeps -/

/-- All permits are more than the backoff apart, and each is as old as the limiter has the
last one, or older. -/
structure Spaced (backoff : Nat) (t : Timed) : Prop where
  keeps : t.limiter.backoff.toNat = backoff
  old : ∃ age, reading t.limiter.last age = t.now ∧ ∀ p ∈ t.permits, p + age ≤ t.elapsed
  apart : t.permits.Pairwise fun p q => p + backoff < q

theorem Spaced.start (backoff : Nat) (now : Tick) :
    Spaced (spacing backoff) (start backoff now) where
  keeps := toNat_backoff_start backoff now
  old := ⟨spacing backoff + 1, reading_start backoff now, by simp [Timed.start]⟩
  apart := List.Pairwise.nil

theorem Spaced.step {backoff : Nat} {t : Timed} (spaced : Spaced backoff t) (op : Op) :
    Spaced backoff (t.step op) := by
  obtain ⟨keeps, ⟨age, since, old⟩, apart⟩ := spaced
  cases op with
  | advance milliseconds =>
      refine ⟨keeps, ⟨age + milliseconds, ?_, fun p member => ?_⟩, apart⟩
      · show reading t.limiter.last (age + milliseconds) = reading t.now milliseconds
        rw [← reading_add, since]
      · have past := old p member
        show p + (age + milliseconds) ≤ t.elapsed + milliseconds
        omega
  | call =>
      by_cases beyond : t.limiter.backoff.toNat < age % 2 ^ 32
      · have permitted := shouldRun_permits since beyond
        -- The clock has lost whole rounds at most, so the true age is no less.
        have true_age : backoff < age := by
          rw [keeps] at beyond
          exact Nat.lt_of_lt_of_le beyond (Nat.mod_le _ _)
        simp only [Timed.step, permitted, if_true]
        refine ⟨keeps, ⟨0, reading_zero _, fun p member => ?_⟩, ?_⟩
        · show p ≤ t.elapsed
          rcases List.mem_append.1 member with earlier | last
          · have past := old p earlier
            omega
          · exact Nat.le_of_eq (List.mem_singleton.1 last)
        · refine apart_append apart fun p member => ?_
          have past := old p member
          omega
      · have refused := shouldRun_refuses since (Nat.not_lt.1 beyond)
        simp only [Timed.step, refused]
        exact ⟨keeps, ⟨age, since, old⟩, apart⟩

theorem Spaced.run {backoff : Nat} {t : Timed} (spaced : Spaced backoff t) (ops : List Op) :
    Spaced backoff (t.run ops) := by
  induction ops generalizing t with
  | nil => exact spaced
  | cons op rest ih => exact ih (spaced.step op)

end Timed

/-! ## Room for permits -/

/-- Instants that are more than the backoff apart take up room. -/
theorem length_mul_le {backoff first last : Nat} {instants : List Nat}
    (apart : instants.Pairwise fun p q => p + backoff < q)
    (inside : ∀ p ∈ instants, first ≤ p ∧ p ≤ last) (room : first ≤ last + (backoff + 1)) :
    instants.length * (backoff + 1) + first ≤ last + (backoff + 1) := by
  induction instants generalizing first with
  | nil =>
      rw [List.length_nil, Nat.zero_mul, Nat.zero_add]
      exact room
  | cons p rest ih =>
      obtain ⟨later, apart⟩ := List.pairwise_cons.1 apart
      obtain ⟨begins, ends⟩ := inside p List.mem_cons_self
      have rest_inside : ∀ q ∈ rest, p + (backoff + 1) ≤ q ∧ q ≤ last := by
        intro q member
        exact ⟨later q member, (inside q (List.mem_cons_of_mem p member)).2⟩
      have taken := ih apart rest_inside (by omega)
      rw [List.length_cons, Nat.succ_mul]
      omega

/-- So many of them are within a stretch of time. -/
theorem length_filter_le {backoff : Nat} {instants : List Nat}
    (apart : instants.Pairwise fun p q => p + backoff < q) (first stretch : Nat) :
    (instants.filter fun p => first ≤ p ∧ p ≤ first + stretch).length ≤
      1 + stretch / (backoff + 1) := by
  have inside : ∀ p ∈ instants.filter fun p => first ≤ p ∧ p ≤ first + stretch,
      first ≤ p ∧ p ≤ first + stretch := by
    intro p member
    simpa using (List.mem_filter.1 member).2
  have taken := length_mul_le (apart.filter _) inside (by omega)
  have positive : 0 < backoff + 1 := Nat.succ_pos backoff
  rw [Nat.add_comm 1, ← Nat.add_div_right _ positive, Nat.le_div_iff_mul_le positive]
  omega

/-- **Whatever the clock does between two calls, as long as it moves forward, two permits are
more than the backoff apart in true time**; so no stretch of time holds more of them than it
holds backoffs, and one. -/
theorem permits_spaced (backoff : Nat) (now : Tick) (ops : List Op) :
    let permits := ((Timed.start backoff now).run ops).permits
    permits.Pairwise (fun p q => p + spacing backoff < q) ∧
      ∀ first stretch,
        (permits.filter fun p => first ≤ p ∧ p ≤ first + stretch).length ≤
          1 + stretch / (spacing backoff + 1) := by
  have spaced := (Timed.Spaced.start backoff now).run ops
  exact ⟨spaced.apart, length_filter_le spaced.apart⟩

end MediaTransport.Limiter
