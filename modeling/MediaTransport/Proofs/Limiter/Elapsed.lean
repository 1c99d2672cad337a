/-
# MediaTransport.Proofs.Limiter.Elapsed -- what a limiter knows of time

A limiter sees a clock that wraps around, so all it knows of time is how far the clock has
moved since the last permit, modulo 2^32.  If the clock reads `age` milliseconds more than
it did at the last permit (`reading l.last age = now`), a call is permitted exactly if
`age % 2 ^ 32` is more than the backoff (`shouldRun_permits`, `shouldRun_refuses`).

A new limiter has the age of its backoff and one millisecond (`reading_start`), a permit
makes the age zero (`reading_zero`), and time that passes is added to it (`reading_add`).
Where on the clock all this happens plays no part.
-/
import Mathlib.Algebra.Ring.Nat
import MediaTransport.Limiter

namespace MediaTransport.Limiter

set_option autoImplicit false

/-! ## Readings -/

/-- What a clock reads some milliseconds after it has read `start`. -/
def reading (start : Tick) (elapsed : Nat) : Tick :=
  start + UInt32.ofNat elapsed

@[simp] theorem reading_zero (start : Tick) : reading start 0 = start := by
  simp [reading]

theorem reading_add (start : Tick) (first later : Nat) :
    reading (reading start first) later = reading start (first + later) := by
  simp only [reading, UInt32.ofNat_add, UInt32.add_assoc]

/-- The difference of two readings is what has passed, up to wraps of the clock. -/
theorem toNat_reading_sub (start : Tick) (elapsed : Nat) :
    (reading start elapsed - start).toNat = elapsed % 2 ^ 32 := by
  have cancelled : reading start elapsed - start = UInt32.ofNat elapsed := by
    rw [reading, UInt32.add_comm, UInt32.add_sub_cancel]
  rw [cancelled, UInt32.toNat_ofNat']

/-- Within one round of the clock no reading comes twice. -/
theorem eq_of_reading_eq {start : Tick} {a b : Nat} (ha : a < 2 ^ 32) (hb : b < 2 ^ 32)
    (same : reading start a = reading start b) : a = b := by
  have differences := congrArg (fun now => (now - start).toNat) same
  simp only [toNat_reading_sub] at differences
  rwa [Nat.mod_eq_of_lt ha, Nat.mod_eq_of_lt hb] at differences

/-- Whether the backoff has expired depends on nothing but the time since the last permit. -/
theorem expired_reading (backoff : UInt32) (last : Tick) (age : Nat) :
    expired backoff (reading last age) last = true ↔ backoff.toNat < age % 2 ^ 32 := by
  rw [expired, decide_eq_true_iff, UInt32.lt_iff_toNat_lt, toNat_reading_sub]

/-! ## A new limiter -/

/-- The backoff that a limiter keeps, in milliseconds. -/
def spacing (backoff : Nat) : Nat :=
  min backoff maxBackoff

theorem spacing_lt (backoff : Nat) : spacing backoff + 1 < 2 ^ 32 := by
  have capped : spacing backoff ≤ maxBackoff := Nat.min_le_right _ _
  have largest : maxBackoff = 2 ^ 32 - 2 := by decide
  omega

@[simp] theorem toNat_backoff_start (backoff : Nat) (now : Tick) :
    (start backoff now).backoff.toNat = spacing backoff := by
  have small := spacing_lt backoff
  show (UInt32.ofNat (spacing backoff)).toNat = spacing backoff
  rw [UInt32.toNat_ofNat', Nat.mod_eq_of_lt (by omega)]

/-- The last permit of a new limiter is dated back by more than the backoff. -/
theorem reading_start (backoff : Nat) (now : Tick) :
    reading (start backoff now).last (spacing backoff + 1) = now := by
  show now - (UInt32.ofNat (spacing backoff) + 1) + UInt32.ofNat (spacing backoff + 1) = now
  rw [UInt32.ofNat_add, UInt32.ofNat_one, UInt32.sub_add_cancel]

/-! ## A call -/

section Call

variable {l : Limiter} {now : Tick} {age : Nat}

theorem shouldRun_permits (since : reading l.last age = now)
    (beyond : l.backoff.toNat < age % 2 ^ 32) :
    l.shouldRun now = (true, { l with last := now }) := by
  have expired : expired l.backoff now l.last = true := by
    rw [← since]
    exact (expired_reading _ _ _).2 beyond
  rw [shouldRun, if_pos expired, claim, if_pos rfl]

theorem shouldRun_refuses (since : reading l.last age = now)
    (within : age % 2 ^ 32 ≤ l.backoff.toNat) : l.shouldRun now = (false, l) := by
  have not_expired : ¬ expired l.backoff now l.last = true := by
    rw [← since, expired_reading]
    exact Nat.not_lt.2 within
  rw [shouldRun, if_neg not_expired]

end Call

/-! ## Permits -/

/-- A permit that comes late enough after all others may follow them. -/
theorem apart_append {backoff instant : Nat} {permits : List Nat}
    (apart : permits.Pairwise fun p q => p + backoff < q)
    (earlier : ∀ p ∈ permits, p + backoff < instant) :
    (permits ++ [instant]).Pairwise fun p q => p + backoff < q := by
  refine List.pairwise_append.2 ⟨apart, List.pairwise_singleton _ _, ?_⟩
  intro p old q new
  rw [List.mem_singleton.1 new]
  exact earlier p old

end MediaTransport.Limiter
