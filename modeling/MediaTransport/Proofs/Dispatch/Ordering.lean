/-
# MediaTransport.Proofs.Dispatch.Ordering -- the registry is a set in the order of entry

A change of the registry is asked for with `add` or `remove`; a `Turn` is a change with the
answer and the registry before and after it.  The turns of a dispatcher follow one another
(`Chain`), wherever they were asked for: its registry is empty at first, and every turn begins
with what the one before has left.

A registry is told from its turns alone, in two ways.  It holds the listeners that have entered
and not left since, in the order in which they entered (`standing`), and it holds those whose
latest change that did anything was an add (`latest`).  Neither looks at a registry, and every
turn keeps both (`Chain.eq_standing`, `Chain.mem_iff`).
-/
import Mathlib.Data.List.Nodup
import Mathlib.Data.Set.Card
import MediaTransport.Dispatch

namespace MediaTransport.Dispatch

set_option autoImplicit false

/-! ## One change -/

namespace Registry

variable (r : Registry) (listener : Name)

theorem add_eq :
    r.add listener = if listener ∈ r then (false, r) else (true, r ++ [listener]) := by
  simp [add]

/-- The length shows whether the listener was registered. -/
theorem remove_answer : (r.remove listener).1 = true ↔ listener ∈ r := by
  have same : (r.filter (· != listener)).length = r.length ↔ listener ∉ r := by
    rw [List.length_filter_eq_length_iff]
    constructor
    · exact fun all member => by simpa using all listener member
    · exact fun absent other member => bne_iff_ne.2 fun same => absent (same ▸ member)
  simp [remove, same]

theorem remove_registry : (r.remove listener).2 = r.filter (· ≠ listener) :=
  List.filter_congr fun other _ => by by_cases same : other = listener <;> simp [same]

theorem filter_absent {r : Registry} {listener : Name} (absent : listener ∉ r) :
    r.filter (· ≠ listener) = r := by
  apply List.filter_eq_self.2
  intro other member
  simpa using fun same : other = listener => absent (same ▸ member)

/-- A listener that is taken out and registered again goes to the end. -/
theorem add_remove :
    (r.remove listener).2.add listener = (true, r.filter (· ≠ listener) ++ [listener]) := by
  rw [remove_registry, add_eq, if_neg (by simp)]

end Registry

/-- A change that is asked for. -/
inductive Change where
  | add (listener : Name)
  | remove (listener : Name)
  deriving DecidableEq, Repr

namespace Change

def listener : Change → Name
  | .add listener => listener
  | .remove listener => listener

/-- What a change does to a registry, after what is answered. -/
def apply (r : Registry) : Change → Bool × Registry
  | .add listener => r.add listener
  | .remove listener => r.remove listener

end Change

/-- A change with the registry before and after it and the answer to it. -/
structure Turn where
  before : Registry
  change : Change
  done : Bool
  after : Registry
  deriving DecidableEq, Repr

namespace Turn

/-- The turn of a change that is made to a registry. -/
def of (r : Registry) (change : Change) : Turn :=
  ⟨r, change, (change.apply r).1, (change.apply r).2⟩

/-- The listener that a turn registers. -/
def entered? (turn : Turn) : Option Name :=
  match turn.change, turn.done with
  | .add listener, true => some listener
  | _, _ => none

/-- The listener that a turn takes out. -/
def left? (turn : Turn) : Option Name :=
  match turn.change, turn.done with
  | .remove listener, true => some listener
  | _, _ => none

/-- What is answered to a change, and what it does. -/
structure Lawful (turn : Turn) : Prop where
  unique : turn.before.Nodup ∧ turn.after.Nodup
  /-- A listener that was not registered is put last. -/
  adds : ∀ listener, turn.change = .add listener →
    (turn.done = true ↔ listener ∉ turn.before) ∧
      turn.after = if turn.done then turn.before ++ [listener] else turn.before
  /-- The others keep their order. -/
  removes : ∀ listener, turn.change = .remove listener →
    (turn.done = true ↔ listener ∈ turn.before) ∧
      turn.after = turn.before.filter (· ≠ listener)

/-- A turn registers a listener that was not there, takes out one that was, or does nothing. -/
theorem of_cases (r : Registry) (change : Change) :
    (∃ listener, change = .add listener ∧ listener ∉ r ∧
      of r change = ⟨r, change, true, r ++ [listener]⟩) ∨
    (∃ listener, change = .remove listener ∧ listener ∈ r ∧
      of r change = ⟨r, change, true, r.filter (· ≠ listener)⟩) ∨
    ((∀ listener, change = .add listener → listener ∈ r) ∧
      (∀ listener, change = .remove listener → listener ∉ r) ∧
      of r change = ⟨r, change, false, r⟩) := by
  cases change with
  | add listener =>
      by_cases registered : listener ∈ r
      · refine .inr (.inr ⟨?_, by simp, ?_⟩)
        · rintro _ ⟨⟩
          exact registered
        · simp [of, Change.apply, Registry.add_eq, registered]
      · refine .inl ⟨listener, rfl, registered, ?_⟩
        simp [of, Change.apply, Registry.add_eq, registered]
  | remove listener =>
      have left := r.remove_registry listener
      by_cases registered : listener ∈ r
      · refine .inr (.inl ⟨listener, rfl, registered, ?_⟩)
        simp only [of, Change.apply, left, (r.remove_answer listener).2 registered]
      · have refused : (r.remove listener).1 = false :=
          Bool.eq_false_iff.2 fun done => registered ((r.remove_answer listener).1 done)
        refine .inr (.inr ⟨by simp, ?_, ?_⟩)
        · rintro _ ⟨⟩
          exact registered
        · simp only [of, Change.apply, left, Registry.filter_absent registered, refused]

theorem lawful_of {r : Registry} (unique : r.Nodup) (change : Change) : (of r change).Lawful := by
  obtain ⟨listener, rfl, absent, put⟩ | ⟨listener, rfl, present, took⟩ | ⟨adds, removes, same⟩ :=
    of_cases r change
  · rw [put]
    refine ⟨⟨unique, ?_⟩, ?_, by simp⟩
    · exact unique.append (List.nodup_singleton _) (by simpa using absent)
    · rintro _ ⟨⟩
      simp [absent]
  · rw [took]
    refine ⟨⟨unique, unique.filter _⟩, by simp, ?_⟩
    rintro _ ⟨⟩
    simp [present]
  · rw [same]
    refine ⟨⟨unique, unique⟩, ?_, ?_⟩
    · rintro listener rfl
      simp [adds listener rfl]
    · rintro listener rfl
      have absent := removes listener rfl
      exact ⟨by simp [absent], (Registry.filter_absent absent).symm⟩

end Turn

/-! ## What the turns tell -/

/-- The listeners that have entered and not left since, in the order of their entry. -/
def standing : List Turn → List Name
  | [] => []
  | turn :: later =>
    turn.entered?.toList.filter (fun listener => later.all (·.left? ≠ some listener)) ++
      standing later

/-- The latest change about a listener that did anything. -/
def latest (turns : List Turn) (listener : Name) : Option Change :=
  (turns.filter fun turn => turn.done && turn.change.listener == listener).getLast?.map Turn.change

theorem standing_concat (turns : List Turn) (turn : Turn) :
    standing (turns ++ [turn]) =
      (standing turns).filter (turn.left? ≠ some ·) ++ turn.entered?.toList := by
  induction turns with
  | nil => simp [standing]
  | cons first later ih =>
      -- Who stays has not left before the last turn, nor at it.
      have stays : ∀ listener, (later ++ [turn]).all (·.left? ≠ some listener) =
          (decide (turn.left? ≠ some listener) && later.all (·.left? ≠ some listener)) := by
        simp [Bool.and_comm]
      simp only [List.cons_append, standing, ih, stays, List.filter_append, List.filter_filter,
        List.append_assoc]

theorem latest_concat (turns : List Turn) (turn : Turn) (listener : Name) :
    latest (turns ++ [turn]) listener =
      if turn.done && turn.change.listener == listener then some turn.change
      else latest turns listener := by
  rw [latest, List.filter_append]
  split <;> simp [latest, *]

/-- The turns of a dispatcher that had no listeners at first, and its registry. -/
inductive Chain : List Turn → Registry → Prop where
  | start : Chain [] []
  | turn {turns : List Turn} {r : Registry} (chain : Chain turns r) (change : Change) :
      Chain (turns ++ [.of r change]) (.of r change : Turn).after

namespace Chain

variable {turns : List Turn} {r : Registry}

theorem nodup (chain : Chain turns r) : r.Nodup := by
  induction chain with
  | start => exact List.nodup_nil
  | turn _ change unique => exact (Turn.lawful_of unique change).unique.2

theorem lawful (chain : Chain turns r) : ∀ turn ∈ turns, turn.Lawful := by
  induction chain with
  | start => simp
  | turn earlier change lawful =>
      intro turn member
      rcases List.mem_append.1 member with before | last
      · exact lawful turn before
      · obtain rfl := List.mem_singleton.1 last
        exact Turn.lawful_of earlier.nodup change

/-- The registry holds who has entered and not left since, in the order of entry. -/
theorem eq_standing (chain : Chain turns r) : r = standing turns := by
  induction chain with
  | start => rfl
  | @turn turns r _ change ih =>
      rw [standing_concat, ← ih]
      obtain ⟨listener, rfl, -, put⟩ | ⟨listener, rfl, -, took⟩ | ⟨-, -, same⟩ :=
        Turn.of_cases r change
      · simp [put, Turn.entered?, Turn.left?]
      · simp [took, Turn.entered?, Turn.left?, eq_comm]
      · simp [same, Turn.entered?, Turn.left?]

/-- The registry holds those who were added last. -/
theorem mem_iff (chain : Chain turns r) (listener : Name) :
    listener ∈ r ↔ latest turns listener = some (.add listener) := by
  induction chain with
  | start => simp [latest]
  | @turn turns r _ change ih =>
      rw [latest_concat]
      obtain ⟨other, rfl, -, put⟩ | ⟨other, rfl, -, took⟩ | ⟨-, -, same⟩ :=
        Turn.of_cases r change
      · rcases eq_or_ne other listener with rfl | about
        · simp [put, Change.listener]
        · simp [put, Change.listener, about, about.symm, ih]
      · rcases eq_or_ne other listener with rfl | about
        · simp [took, Change.listener]
        · simp [took, Change.listener, about, about.symm, ih]
      · simp [same, ih]

theorem length_eq_ncard (chain : Chain turns r) :
    r.length = {listener | latest turns listener = some (.add listener)}.ncard := by
  have added : {listener | latest turns listener = some (.add listener)} = ↑r.toFinset := by
    ext listener
    simp [chain.mem_iff]
  rw [added, Set.ncard_coe_finset, List.toFinset_card_of_nodup chain.nodup]

end Chain

end MediaTransport.Dispatch
