/-
# MediaTransport.Proofs.Limiter.Racing -- several callers at one limiter

Callers on different threads share a limiter without a lock.  A call reads the clock, tests its
reading against the last permit, and then takes the permit if no other call has taken one
since the test; between these steps anything may happen to the clock and to other calls.
`Race` follows any number of calls through any such order of steps.

Exchanging the last permit for one's own keeps two calls apart that have tested against the
same permit.  It does not help a call that is *overtaken*: one that has read the clock, but
finds the permit of a call that has read it later.  To such a call the last permit lies in
the future, and the difference on the clock is almost a whole round (`expired_of_older`).  It
passes the test and is permitted (`permits_of_overtaken`), so two permits may come within one
backoff (`permits_within_one_backoff`).

If no call is overtaken, permits are more than the backoff apart
(`permits_apart_of_inOrder`).  The clock has to stay within one round, counted from the date
of the permit that a new limiter pretends to have given: otherwise a reading could come
again, and a call could take a permit on a test that is out of date.
-/
import MediaTransport.Proofs.Limiter.Elapsed

namespace MediaTransport.Limiter

set_option autoImplicit false

/-! ## Calls step by step -/

/-- How far a call has come. -/
inductive Phase where
  /-- It has read the clock. -/
  | read (instant : Nat)
  /-- It has read the clock and found that the backoff has expired since the reading `seen`. -/
  | tested (instant : Nat) (seen : Tick)
  | returned
  deriving DecidableEq

/-- A limiter with the calls on it.  Instants are in true time, in milliseconds since the
limiter was made. -/
structure Race where
  limiter : Limiter
  /-- What the clock read when the limiter was made. -/
  begun : Tick
  elapsed : Nat := 0
  /-- The calls in the order in which they began; a call is known by its place. -/
  calls : List Phase := []
  /-- When the permitted calls had read the clock, in the order of their permits. -/
  permits : List Nat := []

/-- One step of a call, or of time. -/
inductive Move where
  | advance (milliseconds : Nat)
  /-- A call begins and reads the clock. -/
  | enter
  /-- A call compares its reading with the last permit. -/
  | test (call : Nat)
  /-- A call takes the permit if the last one is still the one that it has seen. -/
  | claim (call : Nat)

namespace Race

/-- A new limiter on a clock that reads `begun`. -/
def start (backoff : Nat) (begun : Tick) : Race where
  limiter := Limiter.start backoff begun
  begun := begun

/-- A call can only take its next step; any other move has no effect. -/
def step (r : Race) : Move → Race
  | .advance milliseconds => { r with elapsed := r.elapsed + milliseconds }
  | .enter => { r with calls := r.calls ++ [.read r.elapsed] }
  | .test call =>
    match r.calls[call]? with
    | some (.read instant) =>
      if expired r.limiter.backoff (reading r.begun instant) r.limiter.last then
        { r with calls := r.calls.set call (.tested instant r.limiter.last) }
      else { r with calls := r.calls.set call .returned }
    | _ => r
  | .claim call =>
    match r.calls[call]? with
    | some (.tested instant seen) =>
      let (permitted, limiter) := r.limiter.claim seen (reading r.begun instant)
      { r with
        limiter
        calls := r.calls.set call .returned
        permits := if permitted then r.permits ++ [instant] else r.permits }
    | _ => r

def run (r : Race) (moves : List Move) : Race :=
  moves.foldl step r

/-! ## What a step does -/

section Step

variable {r : Race} {call instant : Nat} {seen : Tick}

theorem step_passes (found : r.calls[call]? = some (.read instant))
    (beyond : expired r.limiter.backoff (reading r.begun instant) r.limiter.last = true) :
    r.step (.test call) =
      { r with calls := r.calls.set call (.tested instant r.limiter.last) } := by
  simp only [step, found]
  exact if_pos beyond

theorem step_fails (found : r.calls[call]? = some (.read instant))
    (within : ¬ expired r.limiter.backoff (reading r.begun instant) r.limiter.last = true) :
    r.step (.test call) = { r with calls := r.calls.set call .returned } := by
  simp only [step, found]
  exact if_neg within

theorem step_takes (found : r.calls[call]? = some (.tested instant seen))
    (same : r.limiter.last = seen) :
    r.step (.claim call) =
      { r with
        limiter := { r.limiter with last := reading r.begun instant }
        calls := r.calls.set call .returned
        permits := r.permits ++ [instant] } := by
  simp only [step, found, claim, if_pos same, if_true]

theorem step_loses (found : r.calls[call]? = some (.tested instant seen))
    (other : r.limiter.last ≠ seen) :
    r.step (.claim call) = { r with calls := r.calls.set call .returned } := by
  simp only [step, found, claim, if_neg other]
  rfl

theorem step_returned (found : r.calls[call]? = some .returned) : r.step (.claim call) = r := by
  simp only [step, found]

/-- All that a step can do. -/
inductive Steps (r : Race) : Move → Race → Prop where
  | advance (milliseconds : Nat) :
      Steps r (.advance milliseconds) { r with elapsed := r.elapsed + milliseconds }
  | enter : Steps r .enter { r with calls := r.calls ++ [.read r.elapsed] }
  | passes {call instant : Nat} (found : r.calls[call]? = some (.read instant))
      (beyond : expired r.limiter.backoff (reading r.begun instant) r.limiter.last = true) :
      Steps r (.test call)
        { r with calls := r.calls.set call (.tested instant r.limiter.last) }
  | takes {call instant : Nat} (found : r.calls[call]? = some (.tested instant r.limiter.last)) :
      Steps r (.claim call)
        { r with
          limiter := { r.limiter with last := reading r.begun instant }
          calls := r.calls.set call .returned
          permits := r.permits ++ [instant] }
  /-- A call that fails its test or has lost its permit to another. -/
  | returns (call : Nat) (move : Move) :
      Steps r move { r with calls := r.calls.set call .returned }
  /-- A step that is not the next one of its call. -/
  | idle (move : Move) : Steps r move r

theorem steps (r : Race) (move : Move) : Steps r move (r.step move) := by
  cases move with
  | advance milliseconds => exact .advance milliseconds
  | enter => exact .enter
  | test call =>
      cases found : r.calls[call]? with
      | none => simp only [step, found]; exact .idle _
      | some phase =>
          cases phase with
          | read instant =>
              by_cases beyond :
                  expired r.limiter.backoff (reading r.begun instant) r.limiter.last = true
              · rw [step_passes found beyond]
                exact .passes found beyond
              · rw [step_fails found beyond]
                exact .returns call _
          | tested instant seen => simp only [step, found]; exact .idle _
          | returned => simp only [step, found]; exact .idle _
  | claim call =>
      cases found : r.calls[call]? with
      | none => simp only [step, found]; exact .idle _
      | some phase =>
          cases phase with
          | read instant => simp only [step, found]; exact .idle _
          | tested instant seen =>
              by_cases same : r.limiter.last = seen
              · rw [step_takes found same]
                exact .takes (same.symm ▸ found)
              · rw [step_loses found same]
                exact .returns call _
          | returned => rw [step_returned found]; exact .idle _

/-- A call that is not interrupted is a call of `shouldRun`. -/
theorem run_uninterrupted (r : Race) :
    let called := r.limiter.shouldRun (reading r.begun r.elapsed)
    let after := r.run [.enter, .test r.calls.length, .claim r.calls.length]
    after.limiter = called.2 ∧
      after.permits = if called.1 then r.permits ++ [r.elapsed] else r.permits := by
  have entered : (r.step .enter).calls[r.calls.length]? = some (.read r.elapsed) :=
    List.getElem?_concat_length
  have inside : r.calls.length < (r.step .enter).calls.length := by simp [step]
  simp only [run, List.foldl_cons, List.foldl_nil]
  by_cases beyond : expired r.limiter.backoff (reading r.begun r.elapsed) r.limiter.last = true
  · rw [step_passes entered beyond, step_takes (List.getElem?_set_self inside) rfl, shouldRun,
      if_pos beyond, claim, if_pos rfl]
    exact ⟨rfl, rfl⟩
  · rw [step_fails entered beyond, step_returned (List.getElem?_set_self inside), shouldRun,
      if_neg beyond]
    exact ⟨rfl, rfl⟩

end Step

/-! ## Overtaken calls -/

/-- Whether a move tests the reading of a call while there is a permit for a later one. -/
def overtaken (r : Race) : Move → Bool
  | .test call =>
    match r.calls[call]? with
    | some (.read instant) => r.permits.any (instant < ·)
    | _ => false
  | _ => false

/-- Whether no call is overtaken in the course of some moves. -/
def inOrder : List Move → Race → Bool
  | [], _ => true
  | move :: rest, r => !r.overtaken move && inOrder rest (r.step move)

theorem le_of_not_overtaken {r : Race} {call instant : Nat}
    (found : r.calls[call]? = some (.read instant)) (ahead : r.overtaken (.test call) = false) :
    ∀ p ∈ r.permits, p ≤ instant := by
  intro p member
  simp only [overtaken, found, List.any_eq_false, decide_eq_true_eq] at ahead
  exact Nat.not_lt.1 (ahead p member)

/-! ## What every step keeps -/

/-- What is known of a call.  Dates count from `epoch`, which is more than the backoff before
the limiter was made: there a new limiter has its last permit. -/
def Known (epoch : Tick) (elapsed : Nat) : Phase → Prop
  | .read instant => instant ≤ elapsed
  | .tested instant seen =>
    instant ≤ elapsed ∧ ∃ date, seen = reading epoch date ∧ date ≤ instant
  | .returned => True

/-- All permits are more than the backoff apart, and the limiter keeps the date of the last. -/
structure Spaced (backoff : Nat) (epoch : Tick) (r : Race) : Prop where
  keeps : r.limiter.backoff.toNat = backoff
  origin : r.begun = reading epoch (backoff + 1)
  dated : ∃ date, r.limiter.last = reading epoch date ∧
    (date = 0 ∨ ∃ p ∈ r.permits, date = p + (backoff + 1)) ∧
    ∀ p ∈ r.permits, p + (backoff + 1) ≤ date
  past : ∀ p ∈ r.permits, p ≤ r.elapsed
  calls : ∀ phase ∈ r.calls, Known epoch r.elapsed phase
  apart : r.permits.Pairwise fun p q => p + backoff < q

theorem Known.later {epoch : Tick} {now later : Nat} (order : now ≤ later) {phase : Phase}
    (known : Known epoch now phase) : Known epoch later phase := by
  cases phase with
  | read instant => exact Nat.le_trans known order
  | tested instant seen => exact ⟨Nat.le_trans known.1 order, known.2⟩
  | returned => trivial

namespace Spaced

variable {backoff : Nat} {epoch : Tick} {r : Race}

theorem start (backoff : Nat) (begun : Tick) :
    Spaced (spacing backoff) (Limiter.start backoff begun).last (start backoff begun) where
  keeps := toNat_backoff_start backoff begun
  origin := (reading_start backoff begun).symm
  dated := ⟨0, (reading_zero _).symm, .inl rfl, by simp [Race.start]⟩
  past := by simp [Race.start]
  calls := by simp [Race.start]
  apart := List.Pairwise.nil

theorem setCall (spaced : Spaced backoff epoch r) {call : Nat} {phase : Phase}
    (known : Known epoch r.elapsed phase) :
    Spaced backoff epoch { r with calls := r.calls.set call phase } := by
  refine { spaced with calls := fun other member => ?_ }
  rcases List.mem_or_eq_of_mem_set member with old | new
  · exact spaced.calls other old
  · exact new ▸ known

/-- A test that is passed in time has seen a permit whose backoff was over. -/
theorem known_of_passes (spaced : Spaced backoff epoch r) {call instant : Nat}
    (found : r.calls[call]? = some (.read instant)) (ahead : ∀ p ∈ r.permits, p ≤ instant)
    (beyond : expired r.limiter.backoff (reading r.begun instant) r.limiter.last = true) :
    Known epoch r.elapsed (.tested instant r.limiter.last) := by
  obtain ⟨date, last, origin, -⟩ := spaced.dated
  have entered : instant ≤ r.elapsed := spaced.calls _ (List.mem_of_getElem? found)
  have before : date ≤ backoff + 1 + instant := by
    rcases origin with rfl | ⟨p, member, rfl⟩
    · exact Nat.zero_le _
    · have earlier := ahead p member
      omega
  have since : reading r.begun instant =
      reading r.limiter.last (backoff + 1 + instant - date) := by
    rw [spaced.origin, last, reading_add, reading_add, Nat.add_sub_cancel' before]
  rw [since, expired_reading, spaced.keeps] at beyond
  have passed := Nat.mod_le (backoff + 1 + instant - date) (2 ^ 32)
  exact ⟨entered, date, last, by omega⟩

/-- Within a round of the clock, a permit that is the same by the clock is the same. -/
theorem takes (spaced : Spaced backoff epoch r) (short : r.elapsed + backoff + 1 < 2 ^ 32)
    {call instant : Nat} (found : r.calls[call]? = some (.tested instant r.limiter.last)) :
    Spaced backoff epoch
      { r with
        limiter := { r.limiter with last := reading r.begun instant }
        calls := r.calls.set call .returned
        permits := r.permits ++ [instant] } := by
  obtain ⟨date, last, origin, latest⟩ := spaced.dated
  obtain ⟨entered, seen, same, beyond⟩ := spaced.calls _ (List.mem_of_getElem? found)
  have recent : date < 2 ^ 32 := by
    rcases origin with rfl | ⟨p, member, rfl⟩
    · omega
    · have past := spaced.past p member
      omega
  have date_eq : date = seen := eq_of_reading_eq recent (by omega) (last.symm.trans same)
  have earlier : ∀ p ∈ r.permits, p + backoff < instant := by
    intro p member
    have bound := latest p member
    omega
  have returned : Known epoch r.elapsed .returned := trivial
  have calls : ∀ phase ∈ r.calls.set call .returned, Known epoch r.elapsed phase :=
    (spaced.setCall returned).calls
  refine ⟨spaced.keeps, spaced.origin, ?_, ?_, calls, ?_⟩
  · refine ⟨instant + (backoff + 1), ?_, .inr ⟨instant, by simp, rfl⟩, fun p member => ?_⟩
    · show reading r.begun instant = reading epoch (instant + (backoff + 1))
      rw [spaced.origin, reading_add, Nat.add_comm]
    · rcases List.mem_append.1 member with old | new
      · have bound := earlier p old
        omega
      · exact Nat.le_of_eq (congrArg (· + (backoff + 1)) (List.mem_singleton.1 new))
  · intro p member
    rcases List.mem_append.1 member with old | new
    · exact spaced.past p old
    · exact List.mem_singleton.1 new ▸ entered
  · exact apart_append spaced.apart earlier

theorem step (spaced : Spaced backoff epoch r) (short : r.elapsed + backoff + 1 < 2 ^ 32)
    {move : Move} (ahead : r.overtaken move = false) : Spaced backoff epoch (r.step move) := by
  have stepped := r.steps move
  generalize r.step move = next at stepped ⊢
  cases stepped with
  | advance milliseconds =>
      have order : r.elapsed ≤ r.elapsed + milliseconds := Nat.le_add_right _ _
      exact ⟨spaced.keeps, spaced.origin, spaced.dated,
        fun p member => Nat.le_trans (spaced.past p member) order,
        fun phase member => (spaced.calls phase member).later order, spaced.apart⟩
  | enter =>
      refine { spaced with calls := fun phase member => ?_ }
      rcases List.mem_append.1 member with old | new
      · exact spaced.calls phase old
      · rw [List.mem_singleton.1 new]
        exact Nat.le_refl r.elapsed
  | passes found beyond =>
      exact spaced.setCall (spaced.known_of_passes found (le_of_not_overtaken found ahead) beyond)
  | takes found => exact spaced.takes short found
  | returns call => exact spaced.setCall trivial
  | idle => exact spaced

end Spaced

theorem elapsed_le_step (r : Race) (move : Move) : r.elapsed ≤ (r.step move).elapsed := by
  have stepped := r.steps move
  generalize r.step move = next at stepped ⊢
  cases stepped with
  | advance milliseconds => exact Nat.le_add_right _ _
  | _ => exact Nat.le_refl _

theorem elapsed_le_run (r : Race) (moves : List Move) : r.elapsed ≤ (r.run moves).elapsed := by
  induction moves generalizing r with
  | nil => exact Nat.le_refl _
  | cons move rest ih => exact Nat.le_trans (r.elapsed_le_step move) (ih (r.step move))

theorem Spaced.run {backoff : Nat} {epoch : Tick} {r : Race} (spaced : Spaced backoff epoch r)
    {moves : List Move} (short : (r.run moves).elapsed + backoff + 1 < 2 ^ 32)
    (ordered : inOrder moves r = true) : Spaced backoff epoch (r.run moves) := by
  induction moves generalizing r with
  | nil => exact spaced
  | cons move rest ih =>
      simp only [inOrder, Bool.and_eq_true, Bool.not_eq_true'] at ordered
      have so_far := elapsed_le_run r (move :: rest)
      exact ih (spaced.step (by omega) ordered.1) short ordered.2

/-! ## Permits of several callers -/

/-- **Calls may be interrupted anywhere and come in any number: if none of them is overtaken,
the permitted ones have read the clock more than the backoff apart**, while the clock stays
within one round. -/
theorem permits_apart_of_inOrder (backoff : Nat) (begun : Tick) (moves : List Move)
    (short : ((start backoff begun).run moves).elapsed + spacing backoff + 1 < 2 ^ 32)
    (ordered : inOrder moves (start backoff begun) = true) :
    ((start backoff begun).run moves).permits.Pairwise fun p q => p + spacing backoff < q :=
  ((Spaced.start backoff begun).run short ordered).apart

/-- Two calls test against the same permit, and one of them takes it; a third comes when the
backoff is over, as the clock wraps. -/
theorem permits_apart_of_three_calls :
    let moves : List Move :=
      [.enter, .advance 1, .enter, .test 0, .test 1, .claim 1, .claim 0, .advance 101, .enter,
        .test 2, .claim 2]
    ((start 100 4294967290).run moves).elapsed + spacing 100 + 1 < 2 ^ 32 ∧
      inOrder moves (start 100 4294967290) = true ∧
      ((start 100 4294967290).run moves).permits = [1, 102] ∧
      ((start 100 4294967290).run moves).permits.Pairwise fun p q => p + spacing 100 < q := by
  intro moves
  have short : ((start 100 4294967290).run moves).elapsed + spacing 100 + 1 < 2 ^ 32 := by decide
  have ordered : inOrder moves (start 100 4294967290) = true := by decide
  exact ⟨short, ordered, by decide, permits_apart_of_inOrder 100 4294967290 moves short ordered⟩

/-- By the clock a later reading lies almost a whole round back, so the backoff has expired
since then. -/
theorem expired_of_older {backoff : UInt32} {begun : Tick} {instant permit : Nat}
    (older : instant < permit) (short : permit + backoff.toNat + 1 < 2 ^ 32) :
    expired backoff (reading begun instant) (reading begun permit) = true := by
  have round : reading begun instant =
      reading (reading begun permit) (2 ^ 32 - (permit - instant)) := by
    rw [reading_add]
    apply UInt32.toNat_inj.1
    simp only [reading, UInt32.toNat_add, UInt32.toNat_ofNat']
    omega
  rw [round, expired_reading, Nat.mod_eq_of_lt (by omega)]
  omega

/-- Whatever the backoff is, a call that finds a later permit in place of the last takes its
own as well, if nothing comes between its test and its claim. -/
theorem permits_of_overtaken {r : Race} {call instant permit : Nat}
    (found : r.calls[call]? = some (.read instant))
    (last : r.limiter.last = reading r.begun permit) (older : instant < permit)
    (short : permit + r.limiter.backoff.toNat + 1 < 2 ^ 32) :
    (r.run [.test call, .claim call]).permits = r.permits ++ [instant] := by
  obtain ⟨inside, -⟩ := List.getElem?_eq_some_iff.1 found
  have expired : expired r.limiter.backoff (reading r.begun instant) r.limiter.last = true := by
    rw [last]
    exact expired_of_older older short
  simp only [run, List.foldl_cons, List.foldl_nil]
  rw [step_passes found expired, step_takes (List.getElem?_set_self inside) rfl]

/-- The second call reads the clock one millisecond after the first, and is permitted before
the first has looked at the last permit: both are permitted. -/
theorem permits_within_one_backoff :
    ¬ ∀ (backoff : Nat) (begun : Tick) (moves : List Move),
      ((start backoff begun).run moves).elapsed + spacing backoff + 1 < 2 ^ 32 →
        ((start backoff begun).run moves).permits.Pairwise fun p q =>
          p + spacing backoff < q ∨ q + spacing backoff < p := by
  intro always
  let moves : List Move :=
    [.enter, .advance 1, .enter, .test 1, .claim 1, .test 0, .claim 0]
  have both : ((start 100 0).run moves).permits = [1, 0] := by decide
  have apart := always 100 0 moves (by decide)
  rw [both] at apart
  revert apart
  decide

end Race

end MediaTransport.Limiter
