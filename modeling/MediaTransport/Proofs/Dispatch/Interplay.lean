/-
# MediaTransport.Proofs.Dispatch.Interplay -- one registry, used from many places at once

A dispatcher and its clones share one registry, and it may be used from any place at any
moment: from outside, by a listener that is being called, by a listener of a dispatch within
that call, and by several such activities in turn.  Here a dispatch is therefore taken apart
into steps.  An `Activity` is a dispatch under way, with the dispatches around it; a `Scene` is
the shared hub with all activities, and a list of uses says who goes on next.  No activity need
ever come to an end, and none waits for another.

What one step does to the registry is nothing or one turn (`Activity.step_registry`), so the
turns of a scene follow one another (`Scene.chain_run`), and every law of such turns holds
whatever the listeners do.

That the steps are those of a dispatch is a theorem as well: an activity that is never
interrupted does what `dispatch` does, gives its answer and leaves its hub
(`Scene.run_dispatch`).
-/
import MediaTransport.Proofs.Dispatch.Ordering
import MediaTransport.Proofs.Dispatch.Snapshot

namespace MediaTransport.Dispatch

set_option autoImplicit false

open Packet (Feedback)

/-! ## Steps -/

/-- A dispatch that is calling a listener: its message and whom it is to call then. -/
structure Frame where
  message : Feedback
  left : List Name

/-- A call that waits for the answer of a dispatch. -/
structure Waiting where
  next : Outcome → Reaction
  frame : Frame

/-- What remains to be done of a call, the dispatch that makes it, and the calls that wait for
this dispatch, the innermost first. -/
structure Activity where
  reaction : Reaction
  frame : Frame
  around : List Waiting

inductive Status where
  | calling (activity : Activity)
  | ended (outcome : Outcome)

/-- A dispatch answers to the call that waits for it, or to the outside. -/
def answer (outcome : Outcome) : List Waiting → Status
  | [] => .ended outcome
  | waiting :: around => .calling ⟨waiting.next outcome, waiting.frame, around⟩

/-- A dispatch that is to call listeners, with no call of its own to wait for. -/
def calls (around : List Waiting) (message : Feedback) (left : List Name) : Status :=
  .calling ⟨.finish none, ⟨message, left⟩, around⟩

/-- A dispatch begins: it takes the listeners that are registered. -/
def enter (around : List Waiting) (bytes : Octets) (r : Registry) : Status :=
  if r.isEmpty then answer (.ok none) around
  else
    match Feedback.decode bytes with
    | none => answer (.ok none) around
    | some message => calls around message r

section Steps

variable (behaviour : Behaviour)

/-- A dispatch calls the next listener, or answers if there is none. -/
def callNext (around : List Waiting) (message : Feedback) (hub : Hub) : List Name → Hub × Status
  | [] => (hub, answer (.ok (some message)) around)
  | listener :: left =>
    ({ hub with calls := listener :: hub.calls },
      .calling
        ⟨behaviour listener (hub.calls.count listener) (Event.of message), ⟨message, left⟩, around⟩)

/-- A change is made to the registry of a hub. -/
def Hub.change (hub : Hub) (change : Change) : Hub :=
  { hub with registry := (Turn.of hub.registry change).after }

/-- The next step of an activity, with the turn of the registry that it is, if it is one. -/
def Activity.step (a : Activity) (hub : Hub) : List Turn × Hub × Status :=
  match a.reaction with
  | .finish none => ([], callNext behaviour a.around a.frame.message hub a.frame.left)
  | .finish (some text) => ([], hub, answer (.error text) a.around)
  | .add listener next => turn (.add listener) next
  | .remove listener next => turn (.remove listener) next
  | .dispatch bytes next => ([], hub, enter (⟨next, a.frame⟩ :: a.around) bytes hub.registry)
where
  turn (change : Change) (next : Bool → Reaction) : List Turn × Hub × Status :=
    let turn := Turn.of hub.registry change
    ([turn], hub.change change, .calling { a with reaction := next turn.done })

end Steps

/-- The hub that a dispatcher shares with its clones, the turns of its registry so far, and the
dispatches that were asked for from outside. -/
structure Scene where
  hub : Hub := {}
  turns : List Turn := []
  activities : List Status := []

/-- What happens next in a scene: a request from outside, or a step of one activity. -/
inductive Use where
  | request (request : Request)
  | proceed (activity : Nat)
  deriving DecidableEq, Repr

namespace Scene

variable (behaviour : Behaviour)

def change (scene : Scene) (change : Change) : Scene :=
  { scene with
    hub := scene.hub.change change
    turns := scene.turns ++ [.of scene.hub.registry change] }

def step (scene : Scene) : Use → Scene
  | .request (.add listener) => scene.change (.add listener)
  | .request (.remove listener) => scene.change (.remove listener)
  | .request (.dispatch bytes) =>
    { scene with activities := scene.activities ++ [enter [] bytes scene.hub.registry] }
  | .proceed activity =>
    match scene.activities[activity]? with
    | some (.calling a) =>
      let (turns, hub, status) := a.step behaviour scene.hub
      ⟨hub, scene.turns ++ turns, scene.activities.set activity status⟩
    | _ => scene

def run (scene : Scene) (uses : List Use) : Scene :=
  uses.foldl (step behaviour) scene

end Scene

section Entering

variable {around : List Waiting} {bytes : Octets} {hub : Hub}

theorem enter_silent (silent : hub.registry = [] ∨ Feedback.decode bytes = none) :
    enter around bytes hub.registry = answer (.ok none) around := by
  rw [enter]
  rcases silent with empty | unreadable
  · simp [empty]
  · simp [unreadable]

theorem enter_heard {message : Feedback} (listening : hub.registry ≠ [])
    (decoded : Feedback.decode bytes = some message) :
    enter around bytes hub.registry = calls around message hub.registry := by
  simp [enter, listening, decoded]

end Entering

/-! ## Turns -/

section Registry

variable (behaviour : Behaviour)

theorem callNext_registry (around : List Waiting) (message : Feedback) (hub : Hub)
    (left : List Name) :
    (callNext behaviour around message hub left).1.registry = hub.registry := by
  cases left <;> rfl

/-- A step leaves the registry as it is, or is one turn of it. -/
theorem Activity.step_registry (a : Activity) (hub : Hub) :
    ((a.step behaviour hub).1 = [] ∧ (a.step behaviour hub).2.1.registry = hub.registry) ∨
    ∃ change, (a.step behaviour hub).1 = [.of hub.registry change] ∧
      (a.step behaviour hub).2.1.registry = (Turn.of hub.registry change).after := by
  obtain ⟨reaction, frame, around⟩ := a
  cases reaction with
  | finish failure =>
      cases failure with
      | none => exact .inl ⟨rfl, callNext_registry ..⟩
      | some text => exact .inl ⟨rfl, rfl⟩
  | add listener next => exact .inr ⟨.add listener, rfl, rfl⟩
  | remove listener next => exact .inr ⟨.remove listener, rfl, rfl⟩
  | dispatch bytes next => exact .inl ⟨rfl, rfl⟩

namespace Scene

variable {scene : Scene}

theorem chain_step (chain : Chain scene.turns scene.hub.registry) (use : Use) :
    Chain (scene.step behaviour use).turns (scene.step behaviour use).hub.registry := by
  cases use with
  | request request =>
      cases request with
      | add listener => exact chain.turn (.add listener)
      | remove listener => exact chain.turn (.remove listener)
      | dispatch bytes => exact chain
  | proceed activity =>
      simp only [step]
      split
      · rename_i a _
        obtain ⟨silent, same⟩ | ⟨change, turned, made⟩ := a.step_registry behaviour scene.hub
        · simpa [silent, same] using chain
        · simpa [turned, made] using chain.turn change
      · exact chain

/-- The turns of a scene follow one another, whoever made them. -/
theorem chain_run (chain : Chain scene.turns scene.hub.registry) (uses : List Use) :
    Chain (scene.run behaviour uses).turns (scene.run behaviour uses).hub.registry := by
  induction uses generalizing scene with
  | nil => exact chain
  | cons use uses ih => exact ih (chain_step behaviour chain use)

end Scene

end Registry

/-! ## Without interruption -/

/-- What was answered to the changes among some moments. -/
def answersIn (moments : List Moment) : List Bool :=
  moments.filterMap fun
    | .answered _ _ (.changed done) => some done
    | _ => none

theorem answersIn_append (earlier later : List Moment) :
    answersIn (earlier ++ later) = answersIn earlier ++ answersIn later :=
  List.filterMap_append

/-- One activity going on by itself, and the turns that it makes. -/
inductive Leads (behaviour : Behaviour) : Hub × Status → List Turn → Hub × Status → Prop where
  | stop (place : Hub × Status) : Leads behaviour place [] place
  | step {a : Activity} {hub : Hub} {turns : List Turn} {goal : Hub × Status}
      (later : Leads behaviour (a.step behaviour hub).2 turns goal) :
      Leads behaviour (hub, .calling a) ((a.step behaviour hub).1 ++ turns) goal

/-- An activity goes on by itself, and its changes are answered as some moments tell. -/
def Plays (behaviour : Behaviour) (start : Hub × Status) (moments : List Moment)
    (goal : Hub × Status) : Prop :=
  ∃ turns, Leads behaviour start turns goal ∧ turns.map Turn.done = answersIn moments

section Uninterrupted

variable {behaviour : Behaviour} {start middle goal : Hub × Status}

theorem Leads.trans {turns others : List Turn} (first : Leads behaviour start turns middle)
    (second : Leads behaviour middle others goal) :
    Leads behaviour start (turns ++ others) goal := by
  induction first with
  | stop => exact second
  | step _ ih =>
      rw [List.append_assoc]
      exact .step (ih second)

namespace Plays

theorem stop (place : Hub × Status) : Plays behaviour place [] place :=
  ⟨[], .stop place, rfl⟩

theorem trans {moments others : List Moment} (first : Plays behaviour start moments middle)
    (second : Plays behaviour middle others goal) :
    Plays behaviour start (moments ++ others) goal := by
  obtain ⟨turns, leads, answers⟩ := first
  obtain ⟨later, follows, others⟩ := second
  exact ⟨turns ++ later, leads.trans follows, by rw [List.map_append, answers, others,
    answersIn_append]⟩

/-- Only changes matter of what happened. -/
theorem of_answers {moments others : List Moment} (plays : Plays behaviour start moments goal)
    (same : answersIn others = answersIn moments) : Plays behaviour start others goal := by
  obtain ⟨turns, leads, answers⟩ := plays
  exact ⟨turns, leads, answers.trans same.symm⟩

/-- A step that is no turn. -/
theorem step {a : Activity} {hub : Hub} {moments : List Moment}
    (silent : (a.step behaviour hub).1 = [])
    (plays : Plays behaviour (a.step behaviour hub).2 moments goal) :
    Plays behaviour (hub, .calling a) moments goal := by
  obtain ⟨turns, leads, answers⟩ := plays
  refine ⟨_, .step leads, ?_⟩
  rw [silent, List.nil_append, answers]

end Plays

/-- Whether dispatches that are carried out at once are what entering them leads to. -/
def Faithful (behaviour : Behaviour) (nested : Octets → Hub → Run Outcome) : Prop :=
  ∀ bytes hub result, nested bytes hub = some result → ∀ around,
    Plays behaviour (hub, enter around bytes hub.registry) result.2.2
      (result.2.1, answer result.1 around)

theorem plays_follow {nested : Octets → Hub → Run Outcome} (faithful : Faithful behaviour nested)
    {nesting : Nat} {listener : Name} {reaction : Reaction} {hub : Hub}
    {result : Option String × Hub × List Moment}
    (ran : follow nested nesting listener reaction hub = some result)
    (frame : Frame) (around : List Waiting) :
    Plays behaviour (hub, .calling ⟨reaction, frame, around⟩) result.2.2
      (result.2.1, .calling ⟨.finish result.1, frame, around⟩) := by
  induction reaction generalizing hub result with
  | finish failure =>
      cases ran
      exact .stop _
  | add other next ih =>
      rw [follow_add] at ran
      obtain ⟨run, later, rfl⟩ := Option.map_eq_some_iff.1 ran
      obtain ⟨turns, leads, answers⟩ := ih _ later
      exact ⟨_, .step leads, congrArg (List.cons _) answers⟩
  | remove other next ih =>
      rw [follow_remove] at ran
      obtain ⟨run, later, rfl⟩ := Option.map_eq_some_iff.1 ran
      obtain ⟨turns, leads, answers⟩ := ih _ later
      exact ⟨_, .step leads, congrArg (List.cons _) answers⟩
  | dispatch bytes next ih =>
      rw [follow_dispatch] at ran
      obtain ⟨inner, opened, rest⟩ := Option.bind_eq_some_iff.1 ran
      obtain ⟨run, later, rfl⟩ := Option.map_eq_some_iff.1 rest
      have entered := faithful bytes hub inner opened (⟨next, frame⟩ :: around)
      refine (Plays.step rfl (entered.trans (ih _ later))).of_answers ?_
      simp [answersIn]

theorem plays_notify {nested : Octets → Hub → Run Outcome} (faithful : Faithful behaviour nested)
    {nesting : Nat} {message : Feedback} {listeners : List Name} {hub : Hub}
    {result : Option String × Hub × List Moment}
    (ran : notify behaviour nested nesting (Event.of message) listeners hub = some result)
    (around : List Waiting) :
    Plays behaviour (hub, calls around message listeners) result.2.2
      (result.2.1, answer (conclusion message result.1) around) := by
  induction listeners generalizing hub result with
  | nil =>
      cases ran
      exact .step rfl (.stop _)
  | cons first others ih =>
      rw [notify_cons] at ran
      obtain ⟨run, called, rest⟩ := Option.bind_eq_some_iff.1 ran
      have during := plays_follow faithful called ⟨message, others⟩ around
      rcases run with ⟨_ | text, between, moments⟩
      · obtain ⟨later, notified, rfl⟩ := Option.map_eq_some_iff.1 rest
        -- A call that ends content leaves the dispatch as if it began with the others.
        refine (Plays.step rfl (during.trans (ih notified))).of_answers ?_
        simp [answersIn]
      · cases rest
        refine (Plays.step rfl (during.trans (.step rfl (.stop _)))).of_answers ?_
        simp [answersIn]

theorem faithful_dispatch (nesting depth : Nat) :
    Faithful behaviour (dispatch behaviour nesting depth) := by
  induction depth generalizing nesting with
  | zero => exact fun _ _ _ ran => by cases ran
  | succ depth ih =>
      intro bytes hub result ran around
      rcases silent_or_heard bytes hub with silent | ⟨listening, message, decoded⟩
      · rw [dispatch_silent _ silent] at ran
        cases ran
        rw [enter_silent silent]
        exact .stop _
      · rw [dispatch_heard _ listening decoded] at ran
        obtain ⟨run, notified, rfl⟩ := Option.map_eq_some_iff.1 ran
        rw [enter_heard listening decoded]
        exact plays_notify (ih (nesting + 1)) notified around

end Uninterrupted

namespace Scene

variable {behaviour : Behaviour}

theorem run_leads {start goal : Hub × Status} {turns : List Turn}
    (leads : Leads behaviour start turns goal) {scene : Scene} {activity : Nat}
    (here : scene.hub = start.1) (status : scene.activities[activity]? = some start.2) :
    ∃ n, scene.run behaviour (List.replicate n (.proceed activity)) =
      ⟨goal.1, scene.turns ++ turns, scene.activities.set activity goal.2⟩ := by
  induction leads generalizing scene with
  | stop place =>
      obtain ⟨_, same⟩ := List.getElem?_eq_some_iff.1 status
      refine ⟨0, ?_⟩
      rw [← here, ← same, List.set_getElem_self, List.append_nil]
      rfl
  | @step a hub turns goal later ih =>
      have stepped : scene.step behaviour (.proceed activity) =
          ⟨(a.step behaviour hub).2.1, scene.turns ++ (a.step behaviour hub).1,
            scene.activities.set activity (a.step behaviour hub).2.2⟩ := by
        simp only [Scene.step, status, here]
      obtain ⟨inside, -⟩ := List.getElem?_eq_some_iff.1 status
      obtain ⟨n, ran⟩ := @ih (scene.step behaviour (.proceed activity)) (by rw [stepped])
        (by rw [stepped]; exact List.getElem?_set_self inside)
      refine ⟨n + 1, ran.trans ?_⟩
      rw [stepped, List.append_assoc, List.set_set]

/-- A dispatch that is not interrupted comes to the end that `dispatch` tells. -/
theorem run_dispatch {scene : Scene} {nesting depth : Nat} {bytes : Octets}
    {result : Outcome × Hub × List Moment}
    (ran : dispatch behaviour nesting depth bytes scene.hub = some result) :
    ∃ n turns, turns.map Turn.done = answersIn result.2.2 ∧
      scene.run behaviour (.request (.dispatch bytes) ::
        List.replicate n (.proceed scene.activities.length)) =
      ⟨result.2.1, scene.turns ++ turns, scene.activities ++ [.ended result.1]⟩ := by
  obtain ⟨turns, leads, answers⟩ := faithful_dispatch nesting depth bytes scene.hub result ran []
  obtain ⟨n, runs⟩ := @run_leads behaviour _ _ _ leads
    (scene.step behaviour (.request (.dispatch bytes))) scene.activities.length rfl
    (by simp [Scene.step])
  refine ⟨n, turns, answers, runs.trans ?_⟩
  simp [Scene.step, answer]

end Scene

/-! ## The laws of the registry -/

/-- What holds of the registry of a dispatcher after its turns. -/
structure Ordered (turns : List Turn) (r : Registry) : Prop where
  unique : r.Nodup
  /-- What is answered to each change, and what it does. -/
  lawful : ∀ turn ∈ turns, turn.Lawful
  /-- No change but the turns. -/
  chain : Chain turns r
  order : r = standing turns
  size : r.length = {listener | latest turns listener = some (.add listener)}.ncard
  empty : r.isEmpty = true ↔ ∀ listener, latest turns listener ≠ some (.add listener)
  /-- Who is taken out and registered again goes to the end. -/
  again : ∀ listener, (r.remove listener).2.add listener =
    (true, r.filter (· ≠ listener) ++ [listener])

theorem Chain.ordered {turns : List Turn} {r : Registry} (chain : Chain turns r) :
    Ordered turns r where
  unique := chain.nodup
  lawful := chain.lawful
  chain := chain
  order := chain.eq_standing
  size := chain.length_eq_ncard
  empty := by
    rw [List.isEmpty_iff, List.eq_nil_iff_forall_not_mem]
    exact forall_congr' fun listener => not_congr (chain.mem_iff listener)
  again := r.add_remove

/-- **However a dispatcher and its clones are used, from outside and by the listeners of any
dispatches, its registry is a set in the order of entry**: it is told from the turns so far, and
each of them was answered by whether its listener was registered.  An activity that nothing
interrupts is a `dispatch`: begun in any scene, it leaves the same hub, gives the same answer,
and its turns are the changes that `dispatch` tells of. -/
theorem registry_ordered (behaviour : Behaviour) (uses : List Use) :
    let scene := ({} : Scene).run behaviour uses
    Ordered scene.turns scene.hub.registry ∧
      ∀ nesting depth bytes result,
        dispatch behaviour nesting depth bytes scene.hub = some result →
        ∃ n turns, turns.map Turn.done = answersIn result.2.2 ∧
          scene.run behaviour (.request (.dispatch bytes) ::
            List.replicate n (.proceed scene.activities.length)) =
          ⟨result.2.1, scene.turns ++ turns, scene.activities ++ [.ended result.1]⟩ :=
  ⟨(Scene.chain_run behaviour .start uses).ordered, fun _ _ _ _ ran => Scene.run_dispatch ran⟩

/-- Listener "a" takes itself out, adds "c", dispatches and registers itself again.  Meanwhile
"b" is taken out from outside, and registered when "a" is back; once more, it is refused. -/
theorem registry_ordered_of_reentrance :
    let bytes : Octets := [0x81, 206, 0, 2, 0, 0, 0, 1, 0, 0, 0, 9]
    let behaviour := Script.behaviour
      [("a", { onFirst := [.remove "a", .add "c", .dispatch bytes, .add "a"] })]
    let begun := ({} : Scene).run behaviour [.request (.add "a"), .request (.add "b")]
    let scene := ({} : Scene).run behaviour
      [.request (.add "a"), .request (.add "b"), .request (.dispatch bytes), .proceed 0, .proceed 0,
        .proceed 0, .request (.remove "b"), .proceed 0, .proceed 0, .proceed 0, .proceed 0,
        .request (.add "b"), .request (.add "b")]
    (scene.hub.registry = ["c", "a", "b"] ∧
      scene.turns.map Turn.done = [true, true, true, true, true, true, true, false]) ∧
    Ordered scene.turns scene.hub.registry ∧
    ∃ result, (dispatch behaviour 0 2 bytes begun.hub = some result ∧
      result.2.1.registry = ["b", "c", "a"]) ∧
      ∃ n turns, turns.map Turn.done = answersIn result.2.2 ∧
        begun.run behaviour (.request (.dispatch bytes) :: List.replicate n (.proceed 0)) =
          ⟨result.2.1, begun.turns ++ turns, [.ended result.1]⟩ := by
  intro bytes behaviour begun scene
  refine ⟨by decide, (registry_ordered behaviour _).1, ?_⟩
  cases ran : dispatch behaviour 0 2 bytes begun.hub with
  | none => exact absurd ran (by decide)
  | some result =>
      have left : result.2.1.registry = ["b", "c", "a"] := by
        have run : (dispatch behaviour 0 2 bytes begun.hub).map (·.2.1.registry) =
          some ["b", "c", "a"] := by decide
        simpa [ran] using run
      exact ⟨result, ⟨rfl, left⟩, (registry_ordered behaviour _).2 0 2 bytes result ran⟩

end MediaTransport.Dispatch
