/-
# MediaTransport.Proofs.Limiter.Ideal -- a limiter is as good as one that never wraps

The ideal gate sees the true time.  It permits the first call, and then each call that comes
more than the backoff after the last permitted one (`ideal`).  A limiter, which sees the time
modulo 2^32, gives the same answers as long as no call comes a whole round of the clock after
the last permitted one (`answers_eq_ideal`).

`Follows` ties the two together: the reading that the limiter keeps is the one at the last
permit of the ideal gate, or, before there has been one, lies more than the backoff before
the start.  A call keeps it, and the answers are the same.

That the clock has started anywhere in particular is never used: a limiter and its clock may
be moved along the clock together (`answers_shift`).
-/
import MediaTransport.Proofs.Limiter.Elapsed

namespace MediaTransport.Limiter

set_option autoImplicit false

/-! ## Calls at instants -/

/-- What a limiter answers to calls at instants, counted from where the clock read `start`. -/
def answers (start : Tick) : Limiter → List Nat → List Bool
  | _, [] => []
  | l, t :: rest =>
    let called := l.shouldRun (reading start t)
    called.1 :: answers start called.2 rest

/-- When the last of some calls was permitted; `last` if none of them was. -/
def lastPermit (start : Tick) : Option Nat → Limiter → List Nat → Option Nat
  | last, _, [] => last
  | last, l, t :: rest =>
    let called := l.shouldRun (reading start t)
    lastPermit start (if called.1 then some t else last) called.2 rest

/-- Whether a call is more than the backoff after the last permitted one, or the first. -/
def due (backoff : Nat) : Option Nat → Nat → Bool
  | none, _ => true
  | some last, t => last + backoff < t

/-- What the ideal gate answers. -/
def ideal (backoff : Nat) : Option Nat → List Nat → List Bool
  | _, [] => []
  | last, t :: rest =>
    due backoff last t :: ideal backoff (if due backoff last t then some t else last) rest

theorem exists_lastPermit (start : Tick) (permit : Nat) (l : Limiter) (times : List Nat) :
    ∃ last, lastPermit start (some permit) l times = some last := by
  induction times generalizing permit l with
  | nil => exact ⟨permit, rfl⟩
  | cons t rest ih =>
      rw [lastPermit]
      cases (l.shouldRun (reading start t)).1 with
      | true => exact ih t _
      | false => exact ih permit _

/-! ## A limiter follows the ideal gate -/

/-- How long ago the last permit was given; before the first, more than the backoff. -/
def age (backoff : Nat) : Option Nat → Nat → Nat
  | none, now => now + (backoff + 1)
  | some last, now => now - last

/-- A limiter keeps what the ideal gate keeps. -/
structure Follows (backoff : Nat) (start : Tick) (l : Limiter) (last : Option Nat)
    (now : Nat) : Prop where
  keeps : l.backoff.toNat = backoff
  since : reading l.last (age backoff last now) = reading start now
  past : ∀ permit ∈ last, permit ≤ now

namespace Follows

variable {backoff now : Nat} {begun : Tick} {l : Limiter} {last : Option Nat}

theorem of_start (backoff : Nat) (begun : Tick) :
    Follows (spacing backoff) begun (start backoff begun) none 0 where
  keeps := toNat_backoff_start backoff begun
  since := by rw [age, Nat.zero_add, reading_start, reading_zero]
  past := by simp

theorem later (follows : Follows backoff begun l last now) {t : Nat} (order : now ≤ t) :
    Follows backoff begun l last t := by
  have aged : age backoff last t = age backoff last now + (t - now) := by
    cases last with
    | none => simp only [age]; omega
    | some permit =>
        have past := follows.past permit rfl
        simp only [age]
        omega
  refine ⟨follows.keeps, ?_, fun permit member => ?_⟩
  · rw [aged, ← reading_add, follows.since, reading_add]
    congr 1
    omega
  · exact Nat.le_trans (follows.past permit member) order

/-- The backoff has expired for the limiter if it has for the ideal gate. -/
theorem due_iff (follows : Follows backoff begun l last now) :
    due backoff last now = true ↔ backoff < age backoff last now := by
  cases last with
  | none =>
      simp only [due, age, true_iff]
      omega
  | some permit =>
      have past := follows.past permit rfl
      simp only [due, age, decide_eq_true_eq]
      omega

/-- Within a round of the clock a call is answered as by the ideal gate. -/
theorem call (follows : Follows backoff begun l last now)
    (near : age backoff last now < 2 ^ 32) :
    (l.shouldRun (reading begun now)).1 = due backoff last now ∧
      Follows backoff begun (l.shouldRun (reading begun now)).2
        (if due backoff last now then some now else last) now := by
  have round := Nat.mod_eq_of_lt near
  by_cases is_due : due backoff last now = true
  · have beyond := follows.due_iff.1 is_due
    rw [shouldRun_permits follows.since (by rw [round, follows.keeps]; exact beyond), is_due]
    refine ⟨rfl, follows.keeps, ?_, ?_⟩
    · rw [if_pos rfl, age, Nat.sub_self, reading_zero]
    · intro permit member
      cases member
      exact Nat.le_refl now
  · have within : age backoff last now ≤ backoff :=
      Nat.not_lt.1 fun beyond => is_due (follows.due_iff.2 beyond)
    rw [shouldRun_refuses follows.since (by rw [round, follows.keeps]; exact within)]
    rw [Bool.not_eq_true] at is_due
    rw [is_due]
    exact ⟨rfl, follows⟩

/-- All calls are answered as by the ideal gate. -/
theorem answers_eq (follows : Follows backoff begun l last now) {times : List Nat}
    (ordered : times.Pairwise (· ≤ ·)) (begins : ∀ t ∈ times, now ≤ t)
    (near : ∀ i (inside : i < times.length),
      age backoff (lastPermit begun last l (times.take i)) times[i] < 2 ^ 32) :
    answers begun l times = ideal backoff last times := by
  -- On the calls, with the state of either gate before them.
  induction times generalizing l last now with
  | nil => rfl
  | cons t rest ih =>
      obtain ⟨first, ordered⟩ := List.pairwise_cons.1 ordered
      have here := follows.later (begins t List.mem_cons_self)
      obtain ⟨same, next⟩ := here.call (near 0 (Nat.succ_pos _))
      have calls_left : ∀ i (inside : i < rest.length),
          age backoff
            (lastPermit begun (if due backoff last t then some t else last)
              (l.shouldRun (reading begun t)).2 (rest.take i))
            rest[i] < 2 ^ 32 := by
        intro i inside
        rw [← same]
        exact near (i + 1) (Nat.succ_lt_succ inside)
      rw [answers, ideal, same, ih next ordered first calls_left]

end Follows

/-! ## The place on the clock -/

/-- The limiter on a clock that is ahead by some ticks. -/
def shift (l : Limiter) (ticks : Tick) : Limiter :=
  { l with last := l.last + ticks }

theorem expired_shift (backoff : UInt32) (now last ticks : Tick) :
    expired backoff (now + ticks) (last + ticks) = expired backoff now last := by
  have same : now + ticks - (last + ticks) = now - last := by
    rw [UInt32.sub_eq_iff_eq_add, ← UInt32.add_assoc, UInt32.sub_add_cancel]
  rw [expired, expired, same]

theorem shouldRun_shift (l : Limiter) (now ticks : Tick) :
    (l.shift ticks).shouldRun (now + ticks) =
      ((l.shouldRun now).1, (l.shouldRun now).2.shift ticks) := by
  simp only [shouldRun, claim, shift, expired_shift, if_true]
  split <;> rfl

theorem start_shift (backoff : Nat) (begun ticks : Tick) :
    start backoff (begun + ticks) = (start backoff begun).shift ticks := by
  have moved (back : Tick) : begun + ticks - back = begun - back + ticks := by
    rw [UInt32.sub_eq_iff_eq_add, UInt32.add_assoc, UInt32.add_comm ticks, ← UInt32.add_assoc,
      UInt32.sub_add_cancel]
  simp only [start, shift, moved]

theorem answers_shift (begun ticks : Tick) (l : Limiter) (times : List Nat) :
    answers (begun + ticks) (l.shift ticks) times = answers begun l times := by
  induction times generalizing l with
  | nil => rfl
  | cons t rest ih =>
      have moved : reading (begun + ticks) t = reading begun t + ticks := by
        simp only [reading, UInt32.add_assoc, UInt32.add_comm ticks]
      rw [answers, answers, moved, shouldRun_shift, ih]

/-! ## The refinement -/

/-- **A limiter that sees the time modulo 2^32 answers as the ideal gate does, if no call
comes a whole round of the clock after the last permitted one**; where the clock has started
makes no difference. -/
theorem answers_eq_ideal (seconds nanoseconds : Nat) (begun : Tick) {times : List Nat}
    (ordered : times.Pairwise (· ≤ ·))
    (soon : ∀ first ∈ times.head?,
      first + spacing (milliseconds seconds nanoseconds) + 1 < 2 ^ 32)
    (timely : ∀ i (inside : i < times.length),
      ∀ last ∈ lastPermit begun none (start (milliseconds seconds nanoseconds) begun)
        (times.take i), times[i] < last + 2 ^ 32) :
    answers begun (start (milliseconds seconds nanoseconds) begun) times =
        ideal (spacing (milliseconds seconds nanoseconds)) none times ∧
      ∀ other,
        answers other (start (milliseconds seconds nanoseconds) other) times =
          answers begun (start (milliseconds seconds nanoseconds) begun) times := by
  generalize milliseconds seconds nanoseconds = backoff at soon timely ⊢
  have follows := Follows.of_start backoff begun
  constructor
  · apply follows.answers_eq ordered fun t _ => Nat.zero_le t
    intro i inside
    cases times with
    | nil => cases inside
    | cons first rest =>
        have opening : age (spacing backoff) none first < 2 ^ 32 := soon first rfl
        cases i with
        | zero => exact opening
        | succ i =>
            -- The first call was permitted, so there is a last permit to look at.
            have permitted := ((follows.later (Nat.zero_le first)).call opening).1
            have recent := timely (i + 1) inside
            rw [List.take_succ_cons, lastPermit, permitted, due, if_pos rfl] at recent ⊢
            obtain ⟨last, found⟩ := exists_lastPermit begun first
              ((start backoff begun).shouldRun (reading begun first)).2 (rest.take i)
            rw [found] at recent ⊢
            have bound := recent last rfl
            simp only [age]
            omega
  · intro other
    have moved : other = begun + (other - begun) := by
      rw [UInt32.add_comm, UInt32.sub_add_cancel]
    rw [moved, start_shift, answers_shift]

/-- Calls while the clock wraps, and a call almost a whole round after the last permit. -/
theorem answers_eq_ideal_across_wraps :
    ([0, 60, 101, 4294967396, 4294967496, 4294967497] : List Nat).Pairwise (· ≤ ·) ∧
      answers 4294967245 (start (milliseconds 0 100500000) 4294967245)
          [0, 60, 101, 4294967396, 4294967496, 4294967497] =
        ideal 100 none [0, 60, 101, 4294967396, 4294967496, 4294967497] ∧
      ideal 100 none [0, 60, 101, 4294967396, 4294967496, 4294967497] =
        [true, false, true, true, false, true] := by
  have ordered :
      ([0, 60, 101, 4294967396, 4294967496, 4294967497] : List Nat).Pairwise (· ≤ ·) := by
    decide
  exact ⟨ordered,
    (answers_eq_ideal 0 100500000 4294967245 ordered (by decide) (by decide)).1, by decide⟩

end MediaTransport.Limiter
