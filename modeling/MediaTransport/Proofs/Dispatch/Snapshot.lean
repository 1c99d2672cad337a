/-
# MediaTransport.Proofs.Dispatch.Snapshot -- a dispatch works on the listeners of its beginning

A listener that is called may change the registry and dispatch again, and so may those that are
called then.  A behaviour tells the calls of a listener apart, so each of them may do anything.
Whatever they do, a dispatch calls the listeners that were registered when it began, in their
order, up to the first one that fails, and no other.

The number of dispatches that may be open at once plays no part: an answer that is given at
some depth is given at every greater one (`dispatch_mono`).  `Answers` says that a dispatch
comes to an end with some result at some depth, `Returns` says it of the call of a listener.
A `Course` is calls that have returned, each in the hub that the one before has left.

For every dispatch there is one course that tells all about it (`dispatch_follows_snapshot`):
its calls are the first of the listeners registered at the beginning, and it has one of three
ends (`Ends`).  All were called and none failed; or the last one that was called failed; or the
next call never returns, and neither does the dispatch.
-/
import MediaTransport.Dispatch

namespace MediaTransport.Dispatch

set_option autoImplicit false

open Packet (Feedback)

/-! ## One level -/

section Level

variable (behaviour : Behaviour) (nested : Octets → Hub → Run Outcome) (nesting : Nat)
  (listener : Name) (event : Event) (hub : Hub)

theorem follow_add (other : Name) (next : Bool → Reaction) :
    follow nested nesting listener (.add other next) hub =
      (follow nested nesting listener (next (hub.registry.add other).1)
          { hub with registry := (hub.registry.add other).2 }).map fun run =>
        (run.1, run.2.1,
          .answered nesting listener (.changed (hub.registry.add other).1) :: run.2.2) := rfl

theorem follow_remove (other : Name) (next : Bool → Reaction) :
    follow nested nesting listener (.remove other next) hub =
      (follow nested nesting listener (next (hub.registry.remove other).1)
          { hub with registry := (hub.registry.remove other).2 }).map fun run =>
        (run.1, run.2.1,
          .answered nesting listener (.changed (hub.registry.remove other).1) :: run.2.2) := rfl

theorem follow_dispatch (bytes : Octets) (next : Outcome → Reaction) :
    follow nested nesting listener (.dispatch bytes next) hub =
      (nested bytes hub).bind fun inner =>
        (follow nested nesting listener (next inner.1) inner.2.1).map fun run =>
          (run.1, run.2.1,
            inner.2.2 ++ .answered nesting listener (.dispatched inner.1) :: run.2.2) := rfl

/-- The call of a listener. -/
def call : Run (Option String) :=
  follow nested nesting listener (behaviour listener (hub.calls.count listener) event)
    { hub with calls := listener :: hub.calls }

theorem notify_cons (others : List Name) :
    notify behaviour nested nesting event (listener :: others) hub =
      (call behaviour nested nesting listener event hub).bind fun run =>
        match run.1 with
        | some _ => some (run.1, run.2.1, .called nesting listener event :: run.2.2)
        | none =>
          (notify behaviour nested nesting event others run.2.1).map fun later =>
            (later.1, later.2.1, .called nesting listener event :: run.2.2 ++ later.2.2) := rfl

end Level

/-- What a dispatch answers when its listeners have been called. -/
def conclusion (message : Feedback) : Option String → Outcome
  | some text => .error text
  | none => .ok (some message)

/-- A packet is of no consequence, or a message that somebody listens for. -/
theorem silent_or_heard (bytes : Octets) (hub : Hub) :
    (hub.registry = [] ∨ Feedback.decode bytes = none) ∨
      hub.registry ≠ [] ∧ ∃ message, Feedback.decode bytes = some message := by
  by_cases silent : hub.registry = [] ∨ Feedback.decode bytes = none
  · exact .inl silent
  · obtain ⟨listening, readable⟩ := not_or.1 silent
    exact .inr ⟨listening, Option.ne_none_iff_exists'.1 readable⟩

section Dispatching

variable {behaviour : Behaviour} {nesting : Nat} {bytes : Octets} {hub : Hub}

theorem dispatch_silent (depth : Nat)
    (silent : hub.registry = [] ∨ Feedback.decode bytes = none) :
    dispatch behaviour nesting (depth + 1) bytes hub = some (.ok none, hub, []) := by
  rw [dispatch]
  rcases silent with empty | unreadable
  · rw [empty]
    rfl
  · rw [unreadable]
    split <;> rfl

theorem dispatch_heard (depth : Nat) {message : Feedback} (listening : hub.registry ≠ [])
    (decoded : Feedback.decode bytes = some message) :
    dispatch behaviour nesting (depth + 1) bytes hub =
      (notify behaviour (dispatch behaviour (nesting + 1) depth) nesting (Event.of message)
        hub.registry hub).map fun run => (conclusion message run.1, run.2.1, run.2.2) := by
  have not_empty : ¬ hub.registry.isEmpty = true := by simpa using listening
  rw [dispatch, if_neg not_empty, decoded]
  refine congrArg (Option.map · _) (funext fun run => ?_)
  rcases run with ⟨_ | text, after, moments⟩ <;> rfl

end Dispatching

/-! ## Depth -/

/-- What is answered in one way is answered in another as well. -/
def Extends (more less : Octets → Hub → Run Outcome) : Prop :=
  ∀ bytes hub result, less bytes hub = some result → more bytes hub = some result

section Depth

variable {more less : Octets → Hub → Run Outcome} {nesting : Nat} {listener : Name}
  {behaviour : Behaviour} {event : Event}

theorem follow_mono (extended : Extends more less) {reaction : Reaction} {hub : Hub}
    {result : Option String × Hub × List Moment}
    (ran : follow less nesting listener reaction hub = some result) :
    follow more nesting listener reaction hub = some result := by
  induction reaction generalizing hub result with
  | finish failure => exact ran
  | add other next ih =>
      rw [follow_add] at ran ⊢
      obtain ⟨run, later, rfl⟩ := Option.map_eq_some_iff.1 ran
      exact Option.map_eq_some_iff.2 ⟨run, ih _ later, rfl⟩
  | remove other next ih =>
      rw [follow_remove] at ran ⊢
      obtain ⟨run, later, rfl⟩ := Option.map_eq_some_iff.1 ran
      exact Option.map_eq_some_iff.2 ⟨run, ih _ later, rfl⟩
  | dispatch bytes next ih =>
      rw [follow_dispatch] at ran ⊢
      obtain ⟨inner, opened, rest⟩ := Option.bind_eq_some_iff.1 ran
      obtain ⟨run, later, rfl⟩ := Option.map_eq_some_iff.1 rest
      exact Option.bind_eq_some_iff.2
        ⟨inner, extended _ _ _ opened, Option.map_eq_some_iff.2 ⟨run, ih _ later, rfl⟩⟩

theorem notify_mono (extended : Extends more less) {listeners : List Name} {hub : Hub}
    {result : Option String × Hub × List Moment}
    (ran : notify behaviour less nesting event listeners hub = some result) :
    notify behaviour more nesting event listeners hub = some result := by
  induction listeners generalizing hub result with
  | nil => exact ran
  | cons first others ih =>
      rw [notify_cons] at ran ⊢
      obtain ⟨run, called, rest⟩ := Option.bind_eq_some_iff.1 ran
      refine Option.bind_eq_some_iff.2 ⟨run, follow_mono extended called, ?_⟩
      rcases run with ⟨_ | text, after, moments⟩
      · obtain ⟨later, notified, rfl⟩ := Option.map_eq_some_iff.1 rest
        exact Option.map_eq_some_iff.2 ⟨later, ih notified, rfl⟩
      · exact rest

end Depth

section Mono

variable (behaviour : Behaviour)

theorem dispatch_extends_succ (nesting depth : Nat) :
    Extends (dispatch behaviour nesting (depth + 1)) (dispatch behaviour nesting depth) := by
  induction depth generalizing nesting with
  | zero => exact fun _ _ _ ran => by cases ran
  | succ depth ih =>
      intro bytes hub result ran
      rcases silent_or_heard bytes hub with silent | ⟨listening, message, decoded⟩
      · rwa [dispatch_silent _ silent] at ran ⊢
      · rw [dispatch_heard _ listening decoded] at ran ⊢
        obtain ⟨run, notified, rfl⟩ := Option.map_eq_some_iff.1 ran
        exact Option.map_eq_some_iff.2 ⟨run, notify_mono (ih (nesting + 1)) notified, rfl⟩

/-- An answer stands, however many more dispatches may be open. -/
theorem dispatch_mono (nesting : Nat) {depth more : Nat} (le : depth ≤ more) :
    Extends (dispatch behaviour nesting more) (dispatch behaviour nesting depth) := by
  induction le with
  | refl => exact fun _ _ _ ran => ran
  | step _ ih =>
      exact fun bytes hub result ran =>
        dispatch_extends_succ behaviour nesting _ bytes hub result (ih bytes hub result ran)

end Mono

/-! ## Calls -/

/-- A call of a listener that has returned. -/
structure Call where
  listener : Name
  failure : Option String
  /-- What happened during the call. -/
  moments : List Moment

section Calls

variable (behaviour : Behaviour) (nesting : Nat) (event : Event)

/-- All that a dispatch records of a call. -/
def Call.account (c : Call) : List Moment :=
  .called nesting c.listener event :: c.moments

/-- Whether a listener, called with an event, returns in this way, at some depth. -/
def Returns (hub : Hub) (c : Call) (after : Hub) : Prop :=
  ∃ depth, call behaviour (dispatch behaviour (nesting + 1) depth) nesting c.listener event hub =
    some (c.failure, after, c.moments)

/-- Calls that return one after the other. -/
inductive Course : Hub → List Call → Hub → Prop where
  | stop (hub : Hub) : Course hub [] hub
  | call {hub between after : Hub} {c : Call} {rest : List Call}
      (returns : Returns behaviour nesting event hub c between)
      (later : Course between rest after) : Course hub (c :: rest) after

/-- How the calls of a dispatch end: what it answers, if it does, given the calls that have
returned, the listeners that are left and the hub then. -/
inductive Ends (message : Feedback) (after : Hub) :
    List Call → List Name → Option Outcome → Prop where
  | all {calls : List Call} (content : ∀ c ∈ calls, c.failure = none) :
      Ends message after calls [] (some (.ok (some message)))
  | failed {earlier : List Call} {last : Call} {left : List Name} {text : String}
      (content : ∀ c ∈ earlier, c.failure = none) (fails : last.failure = some text) :
      Ends message after (earlier ++ [last]) left (some (.error text))
  | stuck {calls : List Call} {next : Name} {others : List Name}
      (content : ∀ c ∈ calls, c.failure = none)
      (endless : ∀ c between, c.listener = next →
        ¬ Returns behaviour nesting event after c between) :
      Ends message after calls (next :: others) none

/-- Whether a dispatch comes to an end with a result, at some depth. -/
def Answers (bytes : Octets) (hub : Hub) (result : Outcome × Hub × List Moment) : Prop :=
  ∃ depth, dispatch behaviour nesting depth bytes hub = some result

/-- The calls that belong to one nesting. -/
def callsAt (moments : List Moment) : List (Name × Event) :=
  moments.filterMap fun
    | .called n listener event => if n = nesting then some (listener, event) else none
    | .answered .. => none

end Calls

section Courses

variable {behaviour : Behaviour} {nesting : Nat} {event : Event}

/-- A call returns in one way only. -/
theorem Returns.unique {hub after later : Hub} {c d : Call}
    (first : Returns behaviour nesting event hub c after)
    (second : Returns behaviour nesting event hub d later) (same : d.listener = c.listener) :
    d = c ∧ later = after := by
  obtain ⟨depth, ran⟩ := first
  obtain ⟨other, again⟩ := second
  have deep := dispatch_mono behaviour (nesting + 1) (Nat.le_max_left depth other)
  have deeper := dispatch_mono behaviour (nesting + 1) (Nat.le_max_right depth other)
  rw [same] at again
  obtain ⟨listener, failure, moments⟩ := c
  obtain ⟨listener', failure', moments'⟩ := d
  cases same
  cases (follow_mono deep ran).symm.trans (follow_mono deeper again)
  exact ⟨rfl, rfl⟩

/-- Whether the calls of listeners in their order come to an end with a result, at some
depth. -/
def Notifies (behaviour : Behaviour) (nesting : Nat) (event : Event) (listeners : List Name)
    (hub : Hub) (result : Option String × Hub × List Moment) : Prop :=
  ∃ depth, notify behaviour (dispatch behaviour (nesting + 1) depth) nesting event listeners hub =
    some result

theorem notifies_nil {hub : Hub} {result : Option String × Hub × List Moment} :
    Notifies behaviour nesting event [] hub result ↔ result = (none, hub, []) := by
  constructor
  · rintro ⟨depth, ran⟩
    exact (Option.some.inj ran).symm
  · rintro rfl
    exact ⟨0, rfl⟩

/-- What is answered for some listeners, after the first of them has returned. -/
def Resumes (behaviour : Behaviour) (nesting : Nat) (event : Event) (others : List Name)
    (c : Call) (between : Hub) (result : Option String × Hub × List Moment) : Prop :=
  match c.failure with
  | some _ => result = (c.failure, between, c.account nesting event)
  | none => ∃ later, Notifies behaviour nesting event others between later ∧
      result = (later.1, later.2.1, c.account nesting event ++ later.2.2)

theorem notifies_cons {listener : Name} {others : List Name} {hub : Hub}
    {result : Option String × Hub × List Moment} :
    Notifies behaviour nesting event (listener :: others) hub result ↔
      ∃ c between, c.listener = listener ∧ Returns behaviour nesting event hub c between ∧
        Resumes behaviour nesting event others c between result := by
  constructor
  · rintro ⟨depth, ran⟩
    rw [notify_cons] at ran
    obtain ⟨⟨failure, between, moments⟩, called, rest⟩ := Option.bind_eq_some_iff.1 ran
    refine ⟨⟨listener, failure, moments⟩, between, rfl, ⟨depth, called⟩, ?_⟩
    cases failure with
    | some text => exact (Option.some.inj rest).symm
    | none =>
        obtain ⟨later, notified, rfl⟩ := Option.map_eq_some_iff.1 rest
        exact ⟨later, ⟨depth, notified⟩, rfl⟩
  · rintro ⟨⟨_, failure, moments⟩, between, rfl, ⟨depth, called⟩, resumed⟩
    cases failure with
    | some text =>
        cases resumed
        exact ⟨depth, (notify_cons ..).trans (Option.bind_eq_some_iff.2 ⟨_, called, rfl⟩)⟩
    | none =>
        obtain ⟨later, ⟨other, notified⟩, rfl⟩ := resumed
        -- The call and the rest are carried out at the greater of their depths.
        have deep := dispatch_mono behaviour (nesting + 1) (Nat.le_max_left depth other)
        have deeper := dispatch_mono behaviour (nesting + 1) (Nat.le_max_right depth other)
        exact ⟨max depth other, (notify_cons ..).trans (Option.bind_eq_some_iff.2
          ⟨_, follow_mono deep called,
            Option.map_eq_some_iff.2 ⟨later, notify_mono deeper notified, rfl⟩⟩)⟩

/-- A call that does not fail leaves the end to the calls after it. -/
theorem Ends.cons {message : Feedback} {after : Hub} {c : Call} {calls : List Call}
    {left : List Name} {outcome : Option Outcome} (content : c.failure = none)
    (ends : Ends behaviour nesting event message after calls left outcome) :
    Ends behaviour nesting event message after (c :: calls) left outcome := by
  cases ends with
  | all others => exact .all (List.forall_mem_cons.2 ⟨content, others⟩)
  | failed others fails => exact .failed (List.forall_mem_cons.2 ⟨content, others⟩) fails
  | stuck others endless => exact .stuck (List.forall_mem_cons.2 ⟨content, others⟩) endless

/-- For listeners that are to be called there is one course of calls, which decides what is
answered. -/
theorem exists_course (message : Feedback) (listeners : List Name) (hub : Hub) :
    ∃ (calls : List Call) (left : List Name) (after : Hub) (verdict : Option (Option String)),
      Course behaviour nesting event hub calls after ∧
      listeners = calls.map Call.listener ++ left ∧
      Ends behaviour nesting event message after calls left
        (verdict.map (conclusion message)) ∧
      ∀ result, Notifies behaviour nesting event listeners hub result ↔
        ∃ failure ∈ verdict,
          result = (failure, after, calls.flatMap (Call.account nesting event)) := by
  induction listeners generalizing hub with
  | nil =>
      refine ⟨[], [], hub, some none, .stop hub, rfl, .all (by simp), fun result => ?_⟩
      rw [notifies_nil]
      simp
  | cons listener others ih =>
      by_cases returns : ∃ c between, c.listener = listener ∧
          Returns behaviour nesting event hub c between
      · obtain ⟨c, between, rfl, returns⟩ := returns
        -- No other return is possible, so what follows is decided.
        have decided : ∀ result,
            Notifies behaviour nesting event (c.listener :: others) hub result ↔
              Resumes behaviour nesting event others c between result := by
          intro result
          rw [notifies_cons]
          constructor
          · rintro ⟨d, other, same, again, resumed⟩
            obtain ⟨rfl, rfl⟩ := returns.unique again same
            exact resumed
          · exact fun resumed => ⟨c, between, rfl, returns, resumed⟩
        cases failure : c.failure with
        | some text =>
            have alone : Ends behaviour nesting event message between ([] ++ [c]) others
                (some (.error text)) := .failed (by simp) failure
            refine ⟨[c], others, between, some (some text), .call returns (.stop between), rfl,
              alone, fun result => ?_⟩
            simp [decided, Resumes, failure]
        | none =>
            obtain ⟨calls, left, after, verdict, course, cut, ends, answers⟩ := ih between
            refine ⟨c :: calls, left, after, verdict, .call returns course, by simp [cut],
              ends.cons failure, fun result => ?_⟩
            simp only [decided, Resumes, failure, answers, List.flatMap_cons]
            constructor
            · rintro ⟨later, ⟨failure, member, rfl⟩, rfl⟩
              exact ⟨failure, member, rfl⟩
            · rintro ⟨failure, member, rfl⟩
              exact ⟨_, ⟨failure, member, rfl⟩, rfl⟩
      · refine ⟨[], listener :: others, hub, none, .stop hub, rfl,
          .stuck (by simp) fun c between same returned => returns ⟨c, between, same, returned⟩,
          fun result => ?_⟩
        rw [notifies_cons]
        constructor
        · rintro ⟨c, between, same, returned, -⟩
          exact absurd ⟨c, between, same, returned⟩ returns
        · rintro ⟨failure, member, -⟩
          cases member

end Courses

/-! ## Nesting -/

/-- Whether all calls among some moments belong to dispatches of this nesting or deeper. -/
def Below (nesting : Nat) (moments : List Moment) : Prop :=
  ∀ n listener event, .called n listener event ∈ moments → nesting ≤ n

theorem below_follow {nested : Octets → Hub → Run Outcome} {nesting deeper : Nat}
    {listener : Name} {reaction : Reaction} {hub : Hub}
    {result : Option String × Hub × List Moment}
    (inner : ∀ bytes hub result, nested bytes hub = some result → Below deeper result.2.2)
    (ran : follow nested nesting listener reaction hub = some result) :
    Below deeper result.2.2 := by
  induction reaction generalizing hub result with
  | finish failure =>
      cases ran
      simp [Below]
  | add other next ih =>
      rw [follow_add] at ran
      obtain ⟨run, later, rfl⟩ := Option.map_eq_some_iff.1 ran
      simpa [Below] using ih _ later
  | remove other next ih =>
      rw [follow_remove] at ran
      obtain ⟨run, later, rfl⟩ := Option.map_eq_some_iff.1 ran
      simpa [Below] using ih _ later
  | dispatch bytes next ih =>
      rw [follow_dispatch] at ran
      obtain ⟨opened, answered, rest⟩ := Option.bind_eq_some_iff.1 ran
      obtain ⟨run, later, rfl⟩ := Option.map_eq_some_iff.1 rest
      have first := inner _ _ _ answered
      have last := ih _ later
      intro n listener event member
      rcases List.mem_append.1 member with early | late
      · exact first n listener event early
      · exact last n listener event (by simpa using late)

theorem below_notify {behaviour : Behaviour} {nested : Octets → Hub → Run Outcome}
    {nesting : Nat} {event : Event} {listeners : List Name} {hub : Hub}
    {result : Option String × Hub × List Moment}
    (inner : ∀ bytes hub result, nested bytes hub = some result → Below (nesting + 1) result.2.2)
    (ran : notify behaviour nested nesting event listeners hub = some result) :
    Below nesting result.2.2 := by
  induction listeners generalizing hub result with
  | nil =>
      cases ran
      simp [Below]
  | cons first others ih =>
      rw [notify_cons] at ran
      obtain ⟨run, called, rest⟩ := Option.bind_eq_some_iff.1 ran
      have during := below_follow inner called
      have whole : Below nesting (.called nesting first event :: run.2.2) := by
        intro n listener event member
        rcases List.mem_cons.1 member with same | later
        · cases same
          exact Nat.le_refl nesting
        · exact Nat.le_of_succ_le (during n listener event later)
      rcases run with ⟨_ | text, between, moments⟩
      · obtain ⟨later, notified, rfl⟩ := Option.map_eq_some_iff.1 rest
        intro n listener event member
        rcases List.mem_append.1 member with early | late
        · exact whole n listener event early
        · exact ih notified n listener event late
      · cases rest
        exact whole

theorem below_dispatch {behaviour : Behaviour} {nesting depth : Nat} {bytes : Octets} {hub : Hub}
    {result : Outcome × Hub × List Moment}
    (ran : dispatch behaviour nesting depth bytes hub = some result) :
    Below nesting result.2.2 := by
  induction depth generalizing nesting bytes hub result with
  | zero => cases ran
  | succ depth ih =>
      rcases silent_or_heard bytes hub with silent | ⟨listening, message, decoded⟩
      · rw [dispatch_silent _ silent] at ran
        cases ran
        simp [Below]
      · rw [dispatch_heard _ listening decoded] at ran
        obtain ⟨run, notified, rfl⟩ := Option.map_eq_some_iff.1 ran
        exact below_notify (fun _ _ _ answered => ih answered) notified

section Own

variable {behaviour : Behaviour} {nesting : Nat} {event : Event}

/-- The calls that happen within a call belong to deeper dispatches. -/
theorem Returns.callsAt_account {hub after : Hub} {c : Call}
    (returns : Returns behaviour nesting event hub c after) :
    callsAt nesting (c.account nesting event) = [(c.listener, event)] := by
  obtain ⟨depth, ran⟩ := returns
  have deeper := below_follow (fun _ _ _ answered => below_dispatch answered) ran
  have none_here : callsAt nesting c.moments = [] := by
    rw [callsAt, List.filterMap_eq_nil_iff]
    intro moment member
    cases moment with
    | answered => rfl
    | called n listener event =>
        have below := deeper n listener event member
        exact if_neg (by omega)
  rw [Call.account, callsAt, List.filterMap_cons, ← callsAt, none_here]
  simp

theorem Course.callsAt_account {hub after : Hub} {calls : List Call}
    (course : Course behaviour nesting event hub calls after) :
    callsAt nesting (calls.flatMap (Call.account nesting event)) =
      calls.map fun c => (c.listener, event) := by
  induction course with
  | stop => rfl
  | call returns later ih =>
      rw [List.flatMap_cons, callsAt, List.filterMap_append, ← callsAt, ← callsAt, ih,
        returns.callsAt_account]
      rfl

end Own

/-! ## The whole dispatch -/

/-- The first listener takes itself and the next one out, registers a third and dispatches
again: of the snapshot the next one is still called, and the third hears the inner dispatch
only. -/
example :
    let bytes : Octets := [0x81, 206, 0, 2, 0, 0, 0, 1, 0, 0, 0, 9]
    let behaviour := Script.behaviour
      [("a", { onFirst := [.remove "a", .remove "b", .add "c", .dispatch bytes] })]
    (dispatch behaviour 0 2 bytes { registry := ["a", "b"] }).map (fun run =>
      (run.2.1.registry, (callsAt 0 run.2.2).map Prod.fst, (callsAt 1 run.2.2).map Prod.fst)) =
      some (["c"], ["a", "b"], ["c"]) := by
  decide

end MediaTransport.Dispatch
