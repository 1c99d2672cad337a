/-
# MediaTransport.Proofs.Connector.Reports -- one gate for the reports of three faults

A connector reports three faults that may come again and again: a failed receive, a datagram
over the size limit and an overflow of the send queue.  The reports of all three pass the same
gate.  `Site` names them; whether a fault occurs in a turn is told from what the socket hands
over or answers (`Turn.site?`), and its report from what the connector does (`Turn.reported`).

One law says all that a turn does about the gate (`Turn.asks`): it asks once if a fault occurs
and leaves the gate alone otherwise.  While the clock stays within one round, the gate keeps
the instant of the last report of any of the three (`Timely`).  So a fault is reported exactly
if none of the three has been reported within the backoff (`reported_unless_recent`).

That nothing else silences it than its own earlier reports is false: a failed receive, which
ends the connector, is passed over in silence after a datagram that was too long
(`failure_silenced_by_oversized`).
-/
import MediaTransport.Proofs.Connector.Accounting
import MediaTransport.Proofs.Limiter.Ideal

namespace MediaTransport

set_option autoImplicit false

open Net (Address Fault)
open Connector (example13 example13_fresh exampleAddress)
open Limiter (Follows age due reading spacing)

/-! ## What passes the gate -/

/-- A fault whose reports pass the gate of a connector. -/
inductive Site where
  | receive
  | oversize
  | overflow
  deriving DecidableEq

/-- A gate that is asked on behalf of a fault, if one occurs, with the reports it lets
through. -/
def Limiter.ask (l : Limiter) (now : Tick) : Option Site → Limiter × List Site
  | none => (l, [])
  | some site => ((l.shouldRun now).2, if (l.shouldRun now).1 then [site] else [])

namespace Connector

/-- The fault that something reports. -/
def Action.site? : Action → Option Site
  | .report (.receiveFailed ..) => some .receive
  | .report (.oversized ..) => some .oversize
  | .report (.overflow ..) => some .overflow
  | _ => none

def sites (actions : List Action) : List Site :=
  actions.filterMap Action.site?

@[simp] theorem sites_append (first last : List Action) :
    sites (first ++ last) = sites first ++ sites last :=
  List.filterMap_append

/-- The fault that something handed over by the socket amounts to. -/
def arrivalSite (c : Connector) (loan : Loan) : Arrival → Option Site
  | .failed _ => some .receive
  | .packet bytes claimed source =>
    if c.fate loan (.packet bytes claimed source) = .truncated then some .oversize else none

/-- The fault that an answer to a send amounts to. -/
def answerSite : Except Error Delivery → Option Site
  | .ok delivery => if delivery.dropped = 0 then none else some .overflow
  | .error _ => none

section Gate

variable (c : Connector) (now : Tick) (loan : Loan)

theorem gated_asks {event : Event} {site : Site}
    (reports : (Action.report event).site? = some site) :
    ((c.gated now event).1.limiter, sites (c.gated now event).2) =
      c.limiter.ask now (some site) := by
  simp only [gated, Limiter.ask]
  split <;> simp [sites, reports]

@[simp] theorem close_limiter : c.close.1.limiter = c.limiter := by
  unfold close
  split <;> rfl

@[simp] theorem sites_close : sites c.close.2 = [] := by
  unfold close
  split <;> rfl

@[simp] theorem fail_limiter : (c.fail loan).1.limiter = c.limiter :=
  close_limiter _

@[simp] theorem sites_fail : sites (c.fail loan).2 = [] :=
  sites_close _

@[simp] theorem sites_recorded (remote : Address) (outbound : Bool) (bytes : Octets) :
    sites (c.recorded remote outbound bytes) = [] := by
  unfold recorded
  split <;> rfl

theorem enter_asks {loan? : Option Loan} {d : Connector} {actions : List Action}
    (entered : c.enter = (loan?, d, actions)) : d.limiter = c.limiter ∧ sites actions = [] := by
  cases closed : c.closed with
  | true =>
      cases (enter_closed closed).symm.trans entered
      exact ⟨c.close_limiter, c.sites_close⟩
  | false =>
      cases (enter_open closed).symm.trans entered
      exact ⟨rfl, rfl⟩

/-- A receive asks the gate if it fails or drops a datagram for its size. -/
theorem take_asks (lent : loan.window.capacity = c.pool.size) {arrival : Arrival}
    {progress : Progress} {d : Connector} {actions : List Action}
    (taken : c.take now loan arrival = (progress, d, actions)) :
    (d.limiter, sites actions) = c.limiter.ask now (c.arrivalSite loan arrival) := by
  cases arrival with
  | failed fault =>
      cases (take_failed fault).symm.trans taken
      rw [sites_append, sites_fail, List.append_nil, fail_limiter]
      exact c.gated_asks now rfl
  | packet bytes claimed source =>
      cases fate : c.fate loan (.packet bytes claimed source) with
      | delivered =>
          obtain ⟨window, -, -, -, -, answer⟩ := take_delivered now lent fate
          cases answer.symm.trans taken
          rw [sites_recorded, arrivalSite, fate]
          rfl
      | rejected =>
          obtain ⟨window, f, -, -, -, -, answer⟩ := take_rejected now lent fate
          cases answer.symm.trans taken
          rw [arrivalSite, fate]
          cases (f.accept now window.bytes).2.2 <;> rfl
      | truncated =>
          cases (take_truncated now lent fate).symm.trans taken
          rw [arrivalSite, if_pos fate]
          exact gated_asks _ now rfl
      | ended =>
          rw [arrivalSite, fate]
          obtain ⟨tcp, empty | beyond⟩ := fate_ended_iff.1 fate
          · cases (take_drained tcp empty).symm.trans taken
            rw [fail_limiter]
            exact Prod.ext rfl (sites_fail c (filled loan bytes))
          · obtain ⟨e, answer⟩ := take_overrun now tcp beyond
            cases answer.symm.trans taken
            rfl

theorem conclude_asks {bytes : Octets} {answer : Except Error Delivery}
    {result : Except Error Unit} {d : Connector} {actions : List Action}
    (concluded : c.conclude now bytes answer = (result, d, actions)) :
    (d.limiter, sites actions) = c.limiter.ask now (answerSite answer) := by
  cases answer with
  | error e =>
      cases concluded
      rfl
  | ok delivery =>
      by_cases none_dropped : delivery.dropped = 0
      · simp only [conclude, none_dropped, if_true] at concluded
        cases concluded
        rw [answerSite, if_pos none_dropped, List.nil_append, sites_recorded]
        rfl
      · simp only [conclude, none_dropped, if_false] at concluded
        cases concluded
        rw [answerSite, if_neg none_dropped, sites_append, sites_recorded, List.append_nil]
        exact gated_asks _ now rfl

end Gate

end Connector

namespace Traffic

/-! ## Turns -/

namespace Turn

/-- The fault that occurs in a turn, if one does. -/
def site? (turn : Turn) : Option Site :=
  match turn.op with
  | .take call arrival =>
    match turn.before.calls[call]? with
    | some (.waiting loan) => turn.before.connector.arrivalSite loan arrival
    | _ => none
  | .answer _ answer => Connector.answerSite answer
  | _ => none

/-- The faults that a turn reports. -/
def reported (turn : Turn) : List Site :=
  Connector.sites turn.effect.actions

/-- How far the clock moves in a turn. -/
def passed (turn : Turn) : Nat :=
  match turn.op with
  | .advance milliseconds => milliseconds.toNat
  | _ => 0

/-- All that a turn does about the gate and the clock. -/
theorem asks (turn : Turn) (sound : Sound turn.before) :
    (turn.after.connector.limiter, turn.reported) =
        turn.before.connector.limiter.ask turn.before.now turn.site? ∧
      turn.after.now = reading turn.before.now turn.passed := by
  obtain ⟨before, op, effect, after, step⟩ := turn
  cases step with
  | receive entered | receiveClosed entered | resume _ entered | resumeClosed _ entered =>
      obtain ⟨limiter, silent⟩ := Connector.enter_asks _ entered
      exact ⟨Prod.ext limiter silent, (Limiter.reading_zero _).symm⟩
  | skip found taken | deliver found taken | refuse found taken =>
      have asked := Connector.take_asks _ _ _ (sound.lent_of_waiting found).capacity taken
      refine ⟨?_, (Limiter.reading_zero _).symm⟩
      simp only [site?, found]
      exact asked
  | @stop call loan found closed =>
      exact ⟨Prod.ext (Connector.fail_limiter _ loan) (Connector.sites_fail _ loan),
        (Limiter.reading_zero _).symm⟩
  | @answer call bytes answer result c actions found concluded =>
      exact ⟨Connector.conclude_asks _ _ concluded, (Limiter.reading_zero _).symm⟩
  | close =>
      exact ⟨Prod.ext (Connector.close_limiter _) (Connector.sites_close _),
        (Limiter.reading_zero _).symm⟩
  | @advance milliseconds =>
      refine ⟨rfl, ?_⟩
      show before.now + milliseconds = before.now + .ofNat milliseconds.toNat
      rw [UInt32.ofNat_toNat]
  | _ => exact ⟨rfl, (Limiter.reading_zero _).symm⟩

/-- The clock stands still in a turn in which a fault occurs. -/
theorem passed_of_site? {turn : Turn} {site : Site} (occurs : turn.site? = some site) :
    turn.passed = 0 := by
  unfold site? at occurs
  unfold passed
  split
  · rename_i op
    simp [op] at occurs
  · rfl

end Turn

/-! ## Runs -/

/-- How far the clock moves in some turns. -/
def elapsed (turns : List Turn) : Nat :=
  (turns.map Turn.passed).sum

/-- Whether a fault has been reported, no more than `span` milliseconds before the end of
some turns. -/
def ReportedWithin (span : Nat) (site : Site) (turns : List Turn) : Prop :=
  ∃ earlier turn later, turns = earlier ++ turn :: later ∧ site ∈ turn.reported ∧
    elapsed later ≤ span

@[simp] theorem elapsed_concat (turns : List Turn) (turn : Turn) :
    elapsed (turns ++ [turn]) = elapsed turns + turn.passed := by
  simp [elapsed]

theorem elapsed_append (earlier later : List Turn) :
    elapsed (earlier ++ later) = elapsed earlier + elapsed later := by
  simp [elapsed]

theorem reportedWithin_concat {span : Nat} {site : Site} {turns : List Turn} {turn : Turn} :
    ReportedWithin span site (turns ++ [turn]) ↔
      site ∈ turn.reported ∨
        turn.passed ≤ span ∧ ReportedWithin (span - turn.passed) site turns := by
  constructor
  · rintro ⟨earlier, past, later, cut, reported, recent⟩
    rcases List.eq_nil_or_concat' later with rfl | ⟨between, last, rfl⟩
    · obtain ⟨-, same⟩ := List.append_inj' cut rfl
      cases same
      exact .inl reported
    · rw [← List.cons_append, ← List.append_assoc] at cut
      obtain ⟨rfl, same⟩ := List.append_inj' cut rfl
      cases same
      rw [elapsed_concat] at recent
      exact .inr ⟨by omega, earlier, past, between, rfl, reported, by omega⟩
  · rintro (reported | ⟨short, earlier, past, later, rfl, reported, recent⟩)
    · exact ⟨turns, turn, [], rfl, reported, Nat.zero_le _⟩
    · refine ⟨earlier, past, later ++ [turn], by simp, reported, ?_⟩
      rw [elapsed_concat]
      omega

/-- What becomes of a turn: a fault is reported unless one of the three has been reported
within the backoff. -/
inductive Turn.Told (backoff : Nat) (earlier : List Turn) (turn : Turn) : Prop where
  | quiet (none_occurs : turn.site? = none) (silent : turn.reported = [])
  | reports {site : Site} (occurs : turn.site? = some site)
      (rested : ∀ other, ¬ ReportedWithin backoff other earlier) (told : turn.reported = [site])
  | silenced {site other : Site} (occurs : turn.site? = some site)
      (recent : ReportedWithin backoff other earlier) (silent : turn.reported = [])

/-- The gate keeps the instant of the last report, whatever the fault was. -/
structure Timely (backoff : Nat) (begun : Tick) (earlier : List Turn) (t : Traffic) : Prop where
  now : t.now = reading begun (elapsed earlier)
  gate : ∃ last, Follows backoff begun t.connector.limiter last (elapsed earlier) ∧
    ∀ span, (∃ permit ∈ last, elapsed earlier ≤ permit + span) ↔
      ∃ site, ReportedWithin span site earlier

namespace Timely

variable {backoff : Nat} {begun : Tick} {earlier : List Turn} {turn : Turn}

theorem start {c : Connector} (gate : c.limiter = Limiter.start backoff begun) :
    Timely (spacing backoff) begun [] (start c begun) := by
  refine ⟨(Limiter.reading_zero begun).symm, none, ?_, fun span => ?_⟩
  · show Follows _ begun c.limiter none 0
    rw [gate]
    exact Follows.of_start backoff begun
  · simp [ReportedWithin]

/-- Time passes in a turn without a fault. -/
theorem quiet (timely : Timely backoff begun earlier turn.before) (sound : Sound turn.before)
    (occurs : turn.site? = none) :
    turn.reported = [] ∧ Timely backoff begun (earlier ++ [turn]) turn.after := by
  obtain ⟨now, last, follows, dated⟩ := timely
  obtain ⟨asked, clock⟩ := turn.asks sound
  rw [occurs] at asked
  obtain ⟨limiter, silent⟩ := Prod.mk.inj asked
  refine ⟨silent, ?_, last, ?_, fun span => ?_⟩
  · rw [clock, now, Limiter.reading_add, elapsed_concat]
  · rw [limiter, elapsed_concat]
    exact follows.later (Nat.le_add_right _ _)
  · simp only [reportedWithin_concat, silent, List.not_mem_nil, false_or, exists_and_left,
      ← dated, elapsed_concat]
    constructor
    · rintro ⟨permit, member, recent⟩
      have past := follows.past permit member
      exact ⟨by omega, permit, member, by omega⟩
    · rintro ⟨short, permit, member, recent⟩
      exact ⟨permit, member, by omega⟩

/-- Within a round of the clock the gate is as good as one that knows the time. -/
theorem near {last : Option Nat} {now : Nat} (short : now + backoff + 1 < 2 ^ 32) :
    age backoff last now < 2 ^ 32 := by
  cases last <;> simp only [age] <;> omega

/-- A fault that occurs is told from the reports before it. -/
theorem occurs {site : Site} (timely : Timely backoff begun earlier turn.before)
    (sound : Sound turn.before) (occurs : turn.site? = some site)
    (short : elapsed earlier + backoff + 1 < 2 ^ 32) :
    turn.Told backoff earlier ∧ Timely backoff begun (earlier ++ [turn]) turn.after := by
  obtain ⟨now, last, follows, dated⟩ := timely
  obtain ⟨asked, clock⟩ := turn.asks sound
  rw [occurs, now] at asked
  obtain ⟨limiter, reported⟩ := Prod.mk.inj asked
  obtain ⟨answer, next⟩ := follows.call (near short)
  rw [answer] at reported
  have still := Turn.passed_of_site? occurs
  have same_time : elapsed (earlier ++ [turn]) = elapsed earlier := by
    rw [elapsed_concat, still, Nat.add_zero]
  have after_now : turn.after.now = reading begun (elapsed (earlier ++ [turn])) := by
    rw [clock, now, still, Limiter.reading_zero, same_time]
  cases is_due : due backoff last (elapsed earlier) with
  | true =>
      simp only [is_due, if_true] at reported next
      have rested : ∀ other, ¬ ReportedWithin backoff other earlier := by
        intro other recent
        obtain ⟨permit, member, within⟩ := (dated backoff).2 ⟨other, recent⟩
        cases member
        simp only [due, decide_eq_true_eq] at is_due
        omega
      refine ⟨.reports occurs rested reported, after_now, some (elapsed earlier), ?_, ?_⟩
      · rw [limiter, same_time]
        exact next
      · intro span
        have here : ReportedWithin span site (earlier ++ [turn]) :=
          reportedWithin_concat.2 (.inl (by simp [reported]))
        rw [same_time]
        exact iff_of_true ⟨_, rfl, Nat.le_add_right _ _⟩ ⟨site, here⟩
  | false =>
      simp only [is_due, Bool.false_eq_true, if_false] at reported next
      have recent : ∃ other, ReportedWithin backoff other earlier := by
        refine (dated backoff).1 ?_
        cases last with
        | none => cases is_due
        | some permit =>
            simp only [due, decide_eq_false_iff_not] at is_due
            exact ⟨permit, rfl, by omega⟩
      obtain ⟨other, recent⟩ := recent
      refine ⟨.silenced occurs recent reported, after_now, last, ?_, fun span => ?_⟩
      · rw [limiter, same_time]
        exact next
      · simp only [reportedWithin_concat, reported, List.not_mem_nil, false_or, still,
          Nat.sub_zero, Nat.zero_le, true_and, ← dated, same_time]

theorem step (timely : Timely backoff begun earlier turn.before) (sound : Sound turn.before)
    (short : elapsed earlier + backoff + 1 < 2 ^ 32) :
    turn.Told backoff earlier ∧ Timely backoff begun (earlier ++ [turn]) turn.after := by
  cases occurrence : turn.site? with
  | none =>
      obtain ⟨silent, next⟩ := timely.quiet sound occurrence
      exact ⟨.quiet occurrence silent, next⟩
  | some site => exact timely.occurs sound occurrence short

theorem run {t u : Traffic} {turns : List Turn} (timely : Timely backoff begun earlier t)
    (ran : Run t turns u) (sound : ∀ turn ∈ turns, Sound turn.before)
    (short : elapsed (earlier ++ turns) + backoff + 1 < 2 ^ 32) :
    Timely backoff begun (earlier ++ turns) u := by
  induction ran generalizing earlier with
  | stop t => simpa using timely
  | @turn head rest u later ih =>
      rw [List.append_cons] at short ⊢
      have before : elapsed earlier + backoff + 1 < 2 ^ 32 := by
        simp only [elapsed_append] at short
        omega
      have next := (timely.step (sound head List.mem_cons_self) before).2
      exact ih next (fun turn member => sound turn (List.mem_cons_of_mem _ member)) short

end Timely

/-- **While the clock stays within one round, an occurrence of any of the three faults is
reported exactly if none of the three has been reported within the backoff before it**, and
nothing else is reported in their names. -/
theorem reported_unless_recent {c : Connector} {now : Tick} {backoff : Nat} {turns : List Turn}
    {u : Traffic} (fresh : c.Fresh) (gate : c.limiter = Limiter.start backoff now)
    (ran : Run (start c now) turns u) (short : elapsed turns + spacing backoff + 1 < 2 ^ 32)
    {earlier later : List Turn} {turn : Turn} (cut : turns = earlier ++ turn :: later) :
    turn.Told (spacing backoff) earlier := by
  subst cut
  have kept := (ran.keeps fresh.uniform).2
  have sound : ∀ past ∈ earlier ++ turn :: later, Sound past.before :=
    fun past member => (kept past member).1.2
  have before : elapsed earlier + spacing backoff + 1 < 2 ^ 32 := by
    rw [elapsed_append] at short
    omega
  have timely := (Timely.start gate).run ran.split.1
    (fun past member => sound past (List.mem_append_left _ member)) before
  exact (timely.step (sound turn (by simp)) before).1

/-- An overflow comes too early after a datagram that was too long, and a failure of the
receive just late enough. -/
theorem failure_reported_after_backoff :
    example13.Fresh ∧ example13.limiter = Limiter.start 10 0 ∧
      ∃ (earlier : List Turn) (fails : Turn) (u : Traffic),
        Run (start example13 0) (earlier ++ [fails]) u ∧
        elapsed (earlier ++ [fails]) + spacing 10 + 1 < 2 ^ 32 ∧
        earlier.map (fun turn => (turn.site?, turn.reported)) =
          [(none, []), (none, []), (some .oversize, [.oversize]), (none, []),
            (some .overflow, []), (none, []), (none, [])] ∧
        fails.site? = some .receive ∧ fails.reported = [.receive] ∧
        fails.Told (spacing 10) earlier := by
  let begins : Turn := ⟨start example13 0, .receive, _, _, .receive rfl⟩
  let sends : Turn := ⟨begins.after, .send [7] none, _, _, .send rfl⟩
  let drops : Turn :=
    ⟨sends.after, .take 0 (.packet (List.replicate 20 0) none exampleAddress), _, _,
      .skip rfl rfl⟩
  let waits : Turn := ⟨drops.after, .advance 10, _, _, .advance⟩
  let overflows : Turn :=
    ⟨waits.after, .answer 1 (.ok ⟨exampleAddress, 2⟩), _, _, .answer rfl rfl⟩
  let waitsOn : Turn := ⟨overflows.after, .advance 1, _, _, .advance⟩
  let resumes : Turn := ⟨waitsOn.after, .resume 0, _, _, .resume rfl rfl⟩
  let fails : Turn := ⟨resumes.after, .take 0 (.failed .connectionReset), _, _, .refuse rfl rfl⟩
  let earlier := [begins, sends, drops, waits, overflows, waitsOn, resumes]
  have ran : Run (start example13 0) (earlier ++ [fails]) fails.after :=
    .turn begins <| .turn sends <| .turn drops <| .turn waits <| .turn overflows <|
      .turn waitsOn <| .turn resumes <| .turn fails <| .stop _
  have short : elapsed (earlier ++ [fails]) + spacing 10 + 1 < 2 ^ 32 := by decide
  exact ⟨example13_fresh, rfl, earlier, fails, fails.after, ran, short, by decide, rfl, by decide,
    reported_unless_recent example13_fresh rfl ran short rfl⟩

/-- A datagram that is too long is reported, and the receive that goes on after it fails:
nothing is ever reported of the failure, which ends the connector. -/
theorem failure_silenced_by_oversized :
    ¬ ∀ (c : Connector) (now : Tick) (backoff : Nat) (turns : List Turn) (u : Traffic),
      c.Fresh → c.limiter = Limiter.start backoff now → Run (start c now) turns u →
      elapsed turns + spacing backoff + 1 < 2 ^ 32 →
      ∀ (earlier later : List Turn) (turn : Turn) (site : Site),
        turns = earlier ++ turn :: later → turn.site? = some site →
        ¬ ReportedWithin (spacing backoff) site earlier → site ∈ turn.reported := by
  intro always
  let begins : Turn := ⟨start example13 0, .receive, _, _, .receive rfl⟩
  let drops : Turn :=
    ⟨begins.after, .take 0 (.packet (List.replicate 20 0) none exampleAddress), _, _,
      .skip rfl rfl⟩
  let resumes : Turn := ⟨drops.after, .resume 0, _, _, .resume rfl rfl⟩
  let fails : Turn := ⟨resumes.after, .take 0 (.failed .connectionReset), _, _, .refuse rfl rfl⟩
  have ran : Run (start example13 0) ([begins, drops, resumes] ++ [fails]) fails.after :=
    .turn begins <| .turn drops <| .turn resumes <| .turn fails <| .stop _
  have unreported : ∀ past ∈ [begins, drops, resumes], Site.receive ∉ past.reported := by
    decide
  have told := always example13 0 10 _ _ example13_fresh rfl ran (by decide)
    [begins, drops, resumes] [] fails .receive rfl rfl
    fun ⟨_, past, _, cut, reported, _⟩ => unreported past (by simp [cut]) reported
  revert told
  decide

end Traffic

end MediaTransport
