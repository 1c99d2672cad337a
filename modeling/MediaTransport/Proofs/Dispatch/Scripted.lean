/-
# MediaTransport.Proofs.Dispatch.Scripted -- scripted listeners always come to an end

Listeners in general may dispatch at every call, and such a dispatch never returns.  A scripted
one dispatches during its first call only.  So every dispatch within another is begun in the
first call of some member of the cast, and the members that have not been called yet
(`uncalled`) become fewer with each level.  Their number bounds the dispatches that can be open
at once (`dispatch_settles`), and a request from outside is always answered (`serve_answers`).
-/
import Mathlib.Data.Finset.Card
import MediaTransport.Proofs.Dispatch.Snapshot

namespace MediaTransport.Dispatch

set_option autoImplicit false

/-! ## The members that are left -/

section Cast

variable (cast : List (Name × Script))

/-- The number of members of a cast that have not been called yet. -/
def uncalled (calls : List Name) : Nat :=
  ((cast.map Prod.fst).toFinset \ calls.toFinset).card

theorem uncalled_le_length (calls : List Name) : uncalled cast calls ≤ cast.length := by
  calc uncalled cast calls
      ≤ (cast.map Prod.fst).toFinset.card := Finset.card_le_card Finset.sdiff_subset
    _ ≤ (cast.map Prod.fst).length := List.toFinset_card_le _
    _ = cast.length := List.length_map _

variable {cast}

theorem uncalled_mono {calls later : List Name} (subset : calls ⊆ later) :
    uncalled cast later ≤ uncalled cast calls := by
  apply Finset.card_le_card
  apply Finset.sdiff_subset_sdiff Finset.Subset.rfl
  intro listener member
  exact List.mem_toFinset.2 (subset (List.mem_toFinset.1 member))

/-- The first call of a member leaves one fewer. -/
theorem uncalled_lt {calls : List Name} {listener : Name} (member : listener ∈ cast.map Prod.fst)
    (first : listener ∉ calls) : uncalled cast (listener :: calls) < uncalled cast calls := by
  apply Finset.card_lt_card
  refine Finset.ssubset_iff_of_subset ?_ |>.2 ⟨listener, ?_, ?_⟩
  · apply Finset.sdiff_subset_sdiff Finset.Subset.rfl
    simp
  · simpa using ⟨by simpa using member, first⟩
  · simp

/-- Only a member of the cast does anything but finish, and only when it is called first. -/
theorem behaviour_finishes {calls : List Name} {listener : Name} (event : Event)
    (idle : listener ∉ cast.map Prod.fst ∨ listener ∈ calls) :
    ∃ failure, Script.behaviour cast listener (calls.count listener) event = .finish failure := by
  rcases idle with stranger | before
  · have unknown : cast.lookup listener = none := by
      rw [List.lookup_eq_none_iff]
      intro entry member
      have other : listener ≠ entry.1 := by
        intro same
        apply stranger
        rw [same]
        exact List.mem_map_of_mem member
      simpa using other
    simp [Script.behaviour, unknown, Script.reaction]
  · have again : calls.count listener ≠ 0 := by
      rw [Ne, List.count_eq_zero]
      exact fun absent => absent before
    simp [Script.behaviour, Script.reaction, again]

end Cast

/-! ## Dispatches within dispatches -/

/-- Whether something that runs answers, and forgets no call. -/
def Settles {α : Type} (hub : Hub) (run : Run α) : Prop :=
  ∃ result after moments, run = some (result, after, moments) ∧ hub.calls ⊆ after.calls

/-- Whether dispatches settle while fewer members than that have not been called. -/
def Ample (cast : List (Name × Script)) (bound : Nat) (nested : Octets → Hub → Run Outcome) :
    Prop :=
  ∀ bytes hub, uncalled cast hub.calls < bound → Settles hub (nested bytes hub)

section Settling

variable {cast : List (Name × Script)} {nested : Octets → Hub → Run Outcome} {bound : Nat}

theorem follow_settles (inner : Ample cast bound nested)
    (nesting : Nat) (listener : Name) (reaction : Reaction) (hub : Hub)
    (few : uncalled cast hub.calls < bound) :
    Settles hub (follow nested nesting listener reaction hub) := by
  induction reaction generalizing hub with
  | finish failure => exact ⟨failure, hub, [], rfl, List.Subset.refl _⟩
  | add other next ih =>
      obtain ⟨failure, after, moments, ran, grown⟩ :=
        ih _ { hub with registry := (hub.registry.add other).2 } few
      exact ⟨failure, after, _, by rw [follow_add, ran]; rfl, grown⟩
  | remove other next ih =>
      obtain ⟨failure, after, moments, ran, grown⟩ :=
        ih _ { hub with registry := (hub.registry.remove other).2 } few
      exact ⟨failure, after, _, by rw [follow_remove, ran]; rfl, grown⟩
  | dispatch bytes next ih =>
      obtain ⟨outcome, between, early, opened, grown⟩ := inner bytes hub few
      obtain ⟨failure, after, late, ran, later⟩ :=
        ih outcome between (Nat.lt_of_le_of_lt (uncalled_mono grown) few)
      exact ⟨failure, after, _, by rw [follow_dispatch, opened, Option.bind_some, ran]; rfl,
        List.Subset.trans grown later⟩

theorem call_settles (inner : Ample cast bound nested)
    (nesting : Nat) (listener : Name) (event : Event) (hub : Hub)
    (few : uncalled cast hub.calls < bound + 1) :
    Settles hub (call (Script.behaviour cast) nested nesting listener event hub) := by
  have entered : hub.calls ⊆ listener :: hub.calls := List.subset_cons_self _ _
  rw [call]
  by_cases idle : listener ∉ cast.map Prod.fst ∨ listener ∈ hub.calls
  · obtain ⟨failure, finishes⟩ := behaviour_finishes event idle
    rw [finishes]
    exact ⟨failure, _, [], rfl, entered⟩
  · obtain ⟨member, first⟩ := not_or.1 idle
    have fewer := uncalled_lt (not_not.1 member) first
    obtain ⟨failure, after, moments, ran, grown⟩ := follow_settles inner nesting listener
      (Script.behaviour cast listener (hub.calls.count listener) event)
      { hub with calls := listener :: hub.calls } (Nat.lt_of_lt_of_le fewer (Nat.le_of_lt_succ few))
    exact ⟨failure, after, moments, ran, List.Subset.trans entered grown⟩

theorem notify_settles (inner : Ample cast bound nested)
    (nesting : Nat) (event : Event) (listeners : List Name) (hub : Hub)
    (few : uncalled cast hub.calls < bound + 1) :
    Settles hub (notify (Script.behaviour cast) nested nesting event listeners hub) := by
  induction listeners generalizing hub with
  | nil => exact ⟨none, hub, [], rfl, List.Subset.refl _⟩
  | cons listener others ih =>
      obtain ⟨failure, between, moments, called, grown⟩ :=
        call_settles inner nesting listener event hub few
      rw [notify_cons, called, Option.bind_some]
      cases failure with
      | some text => exact ⟨some text, between, _, rfl, grown⟩
      | none =>
          obtain ⟨failure, after, later, ran, forth⟩ :=
            ih between (Nat.lt_of_le_of_lt (uncalled_mono grown) few)
          exact ⟨failure, after, _, by rw [ran]; rfl, List.Subset.trans grown forth⟩

/-- More dispatches than members that were never called cannot be open at once. -/
theorem dispatch_settles (nesting depth : Nat) :
    Ample cast depth (dispatch (Script.behaviour cast) nesting depth) := by
  induction depth generalizing nesting with
  | zero => exact fun _ _ few => absurd few (Nat.not_lt_zero _)
  | succ depth ih =>
      intro bytes hub few
      rcases silent_or_heard bytes hub with silent | ⟨listening, message, decoded⟩
      · exact ⟨.ok none, hub, [], dispatch_silent _ silent, List.Subset.refl _⟩
      · obtain ⟨failure, after, moments, ran, grown⟩ :=
          notify_settles (ih (nesting + 1)) nesting (Event.of message) hub.registry hub few
        exact ⟨_, after, moments, by rw [dispatch_heard _ listening decoded, ran]; rfl, grown⟩

end Settling

/-- **Whatever a cast of scripted listeners is asked for, there is an answer**: the dispatches
that may be open at once are always enough. -/
theorem serve_answers (cast : List (Name × Script)) (hub : Hub) (request : Request) :
    ∃ answer after moments, serve cast hub request = some (answer, after, moments) := by
  cases request with
  | add listener => exact ⟨_, _, _, rfl⟩
  | remove listener => exact ⟨_, _, _, rfl⟩
  | dispatch bytes =>
      have few := Nat.lt_succ_of_le (uncalled_le_length cast hub.calls)
      obtain ⟨outcome, after, moments, ran, -⟩ := dispatch_settles 0 (cast.length + 1) bytes hub few
      exact ⟨.dispatched outcome, after, moments, by rw [serve, ran]; rfl⟩

end MediaTransport.Dispatch
