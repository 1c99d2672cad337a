/-
# MediaTransport.Proofs.Window.Writes -- what writes through a window leave behind

A write through a window replaces octets of the storage below it.  Which ones they are is told
by a `Patch`: the octets with the place, counted from the start of the storage, that the first
of them goes to.  A write at an index of the window has its place by the offset that the window
has at the time (`Edit.patch?`).

One law says what comes of a change of any kind: its patch is applied to the storage if it has
one, and nothing else happens to the storage (`toList_after`).  So after a history of changes
the storage is the first one with all patches applied in order, wherever the window was moved
in between (`toList_run`), and an octet is the one that the last patch over its place has put
there (`Patch.getElem?_foldl`).

A copy shares nothing with the window that it was taken of.  Of the two windows of an editor
each is what its own changes make of the window that both come from (`Editor.Follows.run`);
which changes these are is told from the uses of the editor alone (`Editor.Descent`).
-/
import MediaTransport.Proofs.Window.Histories

namespace MediaTransport

set_option autoImplicit false

/-! ## Patches -/

/-- Octets with the place in a storage that they go to. -/
structure Patch where
  start : Nat
  content : Octets
  deriving DecidableEq, Repr

namespace Patch

/-- The octet that a patch puts at a place, if it extends to there. -/
def octet? (p : Patch) (place : Nat) : Option UInt8 :=
  if p.start ≤ place then p.content[place - p.start]? else none

/-- Octets after a patch, which are as many as before. -/
def apply (octets : Octets) (p : Patch) : Octets :=
  octets.mapIdx fun place old => (p.octet? place).getD old

/-- The octet that the last of some patches over a place puts there. -/
def latest? (patches : List Patch) (place : Nat) : Option UInt8 :=
  patches.reverse.findSome? fun p => p.octet? place

theorem octet?_eq (p : Patch) (place : Nat) :
    p.octet? place =
      if p.start ≤ place ∧ place < p.start + p.content.length then p.content[place - p.start]?
      else none := by
  unfold octet?
  by_cases begun : p.start ≤ place
  · by_cases going : place < p.start + p.content.length
    · simp [begun, going]
    · have past : p.content.length ≤ place - p.start := by omega
      simp [begun, going, past]
  · simp [begun]

theorem getElem?_apply (octets : Octets) (p : Patch) (place : Nat) :
    (apply octets p)[place]? = octets[place]?.map fun old => (p.octet? place).getD old := by
  rw [apply, List.getElem?_mapIdx]

/-- A patch that ends inside replaces what it is over and nothing else. -/
theorem getElem?_apply_of_fits {octets content : Octets} {start : Nat}
    (fits : start + content.length ≤ octets.length) (place : Nat) :
    (apply octets ⟨start, content⟩)[place]? =
      if start ≤ place ∧ place < start + content.length then content[place - start]?
      else octets[place]? := by
  rw [getElem?_apply, octet?_eq]
  by_cases inside : start ≤ place ∧ place < start + content.length
  · have there : place < octets.length := by omega
    have put : place - start < content.length := by omega
    simp [inside, there, put]
  · simp [inside]

theorem latest?_cons (p : Patch) (patches : List Patch) (place : Nat) :
    latest? (p :: patches) place = (latest? patches place).or (p.octet? place) := by
  simp [latest?, List.findSome?_append]

/-- After patches in order, the last one over a place is seen there. -/
theorem getElem?_foldl (patches : List Patch) (octets : Octets) (place : Nat) :
    (patches.foldl apply octets)[place]? =
      octets[place]?.map fun old => (latest? patches place).getD old := by
  induction patches generalizing octets with
  | nil => simp [latest?]
  | cons p patches ih =>
      rw [List.foldl_cons, ih, getElem?_apply, Option.map_map, latest?_cons]
      refine congrArg (octets[place]?.map ·) (funext fun old => ?_)
      cases latest? patches place <;> rfl

end Patch

/-- Octets that are overwritten inside a storage are a patch. -/
theorem Storage.toList_overwrite_eq_apply {s : Storage} {index : Nat} {content : Octets}
    (inside : index + content.length ≤ s.size) :
    (s.overwrite index content).toList = Patch.apply s.toList ⟨index, content⟩ := by
  apply List.ext_getElem?
  intro place
  have length := s.length_toList
  rw [toList_overwrite inside, Patch.getElem?_apply, Patch.octet?_eq]
  simp only [List.getElem?_append, List.getElem?_take, List.getElem?_drop, List.length_append,
    List.length_take, length]
  grind

namespace Window

/-! ## One change -/

/-- The patch of a change, if it is a write that is carried out. -/
def Edit.patch? (w : Window) : Edit → Option Patch
  | .fill value => some ⟨w.offset, List.replicate w.length value⟩
  | .write index content =>
    if index + content.length ≤ w.length then some ⟨w.offset + index, content⟩ else none
  | .writeStorage index content =>
    if index + content.length ≤ w.capacity then some ⟨index, content⟩ else none
  | _ => none

section Changes

variable {w : Window} {change : Edit} {p : Patch}

theorem patch_fits (patched : change.patch? w = some p) :
    p.start + p.content.length ≤ w.capacity := by
  have fits : w.offset + w.length ≤ w.capacity := w.fits
  cases change with
  | fill value =>
      cases patched
      simpa using fits
  | write index content =>
      obtain ⟨inside, rfl⟩ := Option.ite_some_none_eq_some.1 patched
      simp only
      omega
  | writeStorage index content =>
      obtain ⟨inside, rfl⟩ := Option.ite_some_none_eq_some.1 patched
      exact inside
  | moveTo | resize | reframe => cases patched

theorem edit_of_patch (patched : change.patch? w = some p) :
    w.edit change = .ok (w.overwrite p.start p.content) := by
  cases change with
  | fill value =>
      cases patched
      rfl
  | write index content =>
      obtain ⟨inside, rfl⟩ := Option.ite_some_none_eq_some.1 patched
      simp only [edit, write, if_pos inside]
  | writeStorage index content =>
      obtain ⟨inside, rfl⟩ := Option.ite_some_none_eq_some.1 patched
      simp only [edit, writeStorage, if_pos inside]
  | moveTo | resize | reframe => cases patched

/-- A write without a patch ends outside and is refused. -/
theorem edit_of_not_patch (unpatched : change.patch? w = none)
    (write : change.bounds? w = none) : w.edit change = .error .outOfRange := by
  cases change with
  | fill value => cases unpatched
  | write index content =>
      have outside : ¬ index + content.length ≤ w.length := by simpa [Edit.patch?] using unpatched
      simp only [edit, Window.write, if_neg outside]
  | writeStorage index content =>
      have outside : ¬ index + content.length ≤ w.capacity := by
        simpa [Edit.patch?] using unpatched
      simp only [edit, writeStorage, if_neg outside]
  | moveTo | resize | reframe => cases write

theorem storage_after_of_bounds {asked : Nat × Nat} (moved : change.bounds? w = some asked) :
    (w.after change).storage = w.storage := by
  obtain ⟨offset, length⟩ := asked
  unfold after
  by_cases fits : offset + length ≤ w.capacity
  · rw [edit_of_fits moved fits]
  · rw [edit_of_not_fits moved fits]

/-- A change does to the storage what its patch says. -/
theorem toList_after (w : Window) (change : Edit) :
    (w.after change).storage.toList =
      (change.patch? w).toList.foldl Patch.apply w.storage.toList := by
  cases patched : change.patch? w with
  | some p =>
      unfold after
      rw [edit_of_patch patched]
      exact Storage.toList_overwrite_eq_apply (patch_fits patched)
  | none =>
      cases moved : change.bounds? w with
      | some asked =>
          rw [storage_after_of_bounds moved]
          rfl
      | none =>
          unfold after
          rw [edit_of_not_patch patched moved]
          rfl

end Changes

/-! ## Turns -/

/-- Octets that a turn replaces are those from a place of the storage on, and no others. -/
structure Turn.Replaces (turn : Turn) (start : Nat) (content : Octets) : Prop where
  offset : turn.after.offset = turn.before.offset
  length : turn.after.length = turn.before.length
  octets : ∀ place, turn.after.storage.toList[place]? =
    if start ≤ place ∧ place < start + content.length then content[place - start]?
    else turn.before.storage.toList[place]?

/-- What a turn does to the storage, by the change that is asked for. -/
structure Turn.Confined (turn : Turn) : Prop where
  shown : turn.after.bytes =
    (turn.after.storage.toList.drop turn.after.offset).take turn.after.length
  written : ∀ index content, turn.change = .write index content →
    (turn.refusal = none ↔ index + content.length ≤ turn.before.length) ∧
      (turn.refusal = none → turn.Replaces (turn.before.offset + index) content)
  stored : ∀ index content, turn.change = .writeStorage index content →
    (turn.refusal = none ↔ index + content.length ≤ turn.before.capacity) ∧
      (turn.refusal = none → turn.Replaces index content)
  filled : ∀ value, turn.change = .fill value →
    turn.refusal = none ∧
      turn.Replaces turn.before.offset (List.replicate turn.before.length value)
  moved : ∀ asked, turn.change.bounds? turn.before = some asked →
    turn.after.storage = turn.before.storage
  refused : turn.refusal ≠ none → turn.after = turn.before

theorem Turn.replaces_of_patch {w : Window} {change : Edit} {start : Nat} {content : Octets}
    (patched : change.patch? w = some ⟨start, content⟩) :
    (Turn.of w change).Replaces start content := by
  have fits : start + content.length ≤ w.storage.size := patch_fits patched
  rw [turn_of_ok (edit_of_patch patched)]
  refine ⟨rfl, rfl, fun place => ?_⟩
  show (w.storage.overwrite start content).toList[place]? =
    if start ≤ place ∧ place < start + content.length then content[place - start]?
    else w.storage.toList[place]?
  rw [Storage.toList_overwrite_eq_apply fits]
  exact Patch.getElem?_apply_of_fits (by rwa [Storage.length_toList]) place

/-- A write is accepted if it ends inside, and then it replaces what it says. -/
theorem Turn.replaces_iff {w : Window} {change : Edit} {inside : Prop} [Decidable inside]
    {start : Nat} {content : Octets} (write : change.bounds? w = none)
    (told : change.patch? w = if inside then some ⟨start, content⟩ else none) :
    ((Turn.of w change).refusal = none ↔ inside) ∧
      ((Turn.of w change).refusal = none → (Turn.of w change).Replaces start content) := by
  by_cases fits : inside
  · have patched := told.trans (if_pos fits)
    have accepted : (Turn.of w change).refusal = none := by
      rw [turn_of_ok (edit_of_patch patched)]
    exact ⟨iff_of_true accepted fits, fun _ => Turn.replaces_of_patch patched⟩
  · have unpatched := told.trans (if_neg fits)
    have refused : (Turn.of w change).refusal ≠ none := by
      simp [turn_of_error (edit_of_not_patch unpatched write)]
    exact ⟨iff_of_false refused fits, fun accepted => absurd accepted refused⟩

theorem Turn.confined_of (w : Window) (change : Edit) : (Turn.of w change).Confined := by
  refine ⟨bytes_eq _, ?_, ?_, ?_, ?_, ?_⟩
  · rintro index content rfl
    exact Turn.replaces_iff rfl rfl
  · rintro index content rfl
    exact Turn.replaces_iff rfl rfl
  · rintro value rfl
    exact ⟨rfl, Turn.replaces_of_patch rfl⟩
  · intro asked moved
    exact storage_after_of_bounds moved
  · intro refused
    cases edited : w.edit change with
    | ok changed => exact absurd (by rw [turn_of_ok edited]) refused
    | error e => rw [turn_of_error edited]

/-! ## A whole history -/

/-- The window after a history of changes. -/
def run (w : Window) (changes : List Edit) : Window :=
  changes.foldl after w

/-- The patches of a history, each at its place by the offset in force. -/
def patches (w : Window) (changes : List Edit) : List Patch :=
  (turns w changes).filterMap fun turn => turn.change.patch? turn.before

theorem patches_cons (w : Window) (change : Edit) (later : List Edit) :
    patches w (change :: later) =
      (change.patch? w).toList ++ patches (w.after change) later := by
  unfold patches
  rw [turns, List.filterMap_cons]
  cases patched : change.patch? w <;> simp [Turn.of, patched]

theorem toList_run (w : Window) (changes : List Edit) :
    (w.run changes).storage.toList =
      (patches w changes).foldl Patch.apply w.storage.toList := by
  induction changes generalizing w with
  | nil => rfl
  | cons change later ih =>
      rw [patches_cons, List.foldl_append, ← toList_after]
      exact ih (w.after change)

theorem confined_of_mem_turns {w : Window} {changes : List Edit} {turn : Turn}
    (member : turn ∈ turns w changes) : turn.Confined := by
  induction changes generalizing w with
  | nil => cases member
  | cons change later ih =>
      rcases List.mem_cons.1 member with rfl | rest
      · exact Turn.confined_of w change
      · exact ih rest

/-- What is left of a history of changes in the last window. -/
structure Written (w : Window) (changes : List Edit) (last : Window) : Prop where
  ran : last = w.run changes
  turns : ∀ turn ∈ turns w changes, turn.Confined
  /-- The patches of the history have been applied in order, and nothing else. -/
  storage : last.storage.toList = (patches w changes).foldl Patch.apply w.storage.toList
  shown : last.bytes = (last.storage.toList.drop last.offset).take last.length
  /-- In the window, wherever it is, the last patch over a place is seen there. -/
  octets : ∀ i < last.length, last.bytes[i]? =
    w.storage.toList[last.offset + i]?.map fun old =>
      (Patch.latest? (patches w changes) (last.offset + i)).getD old

theorem written_run (w : Window) (changes : List Edit) : Written w changes (w.run changes) := by
  have storage := toList_run w changes
  refine ⟨rfl, fun turn => confined_of_mem_turns, storage, bytes_eq _, fun i inside => ?_⟩
  rw [getElem?_bytes inside, storage, Patch.getElem?_foldl]

/-! ## Copies -/

namespace Editor

/-- One use of an editor. -/
inductive Op where
  | edit (change : Edit)
  | save
  | swap
  deriving DecidableEq, Repr

def step (e : Editor) : Op → Editor
  | .edit change => { e with current := e.current.after change }
  | .save => e.save.2
  | .swap => e.swap.2

def run (e : Editor) (ops : List Op) : Editor :=
  ops.foldl step e

/-- The changes that each of the two windows has been through; a copy begins with those of the
window that it was taken of. -/
structure Descent where
  current : List Edit := []
  aside : Option (List Edit) := none
  deriving DecidableEq, Repr

def Descent.step (copyable : Bool) (d : Descent) : Op → Descent
  | .edit change => { d with current := d.current ++ [change] }
  | .save => if copyable then { d with aside := some d.current } else d
  | .swap =>
    match d.aside with
    | some changes => ⟨changes, some d.current⟩
    | none => d

/-- The changes of the two windows, told from the uses of the editor. -/
def Descent.of (copyable : Bool) (ops : List Op) : Descent :=
  ops.foldl (Descent.step copyable) {}

/-- Both windows are what their changes make of one. -/
structure Follows (w : Window) (copyable : Bool) (e : Editor) (d : Descent) : Prop where
  current : e.current = w.run d.current
  aside : e.aside = d.aside.map w.run
  copyable : e.copyable = copyable

theorem Follows.step {w : Window} {copyable : Bool} {e : Editor} {d : Descent}
    (follows : Follows w copyable e d) (op : Op) :
    Follows w copyable (e.step op) (d.step copyable op) := by
  obtain ⟨current, aside, same⟩ := follows
  cases op with
  | edit change =>
      refine ⟨?_, aside, same⟩
      show e.current.after change = w.run (d.current ++ [change])
      rw [current, Window.run, Window.run, List.foldl_append]
      rfl
  | save =>
      cases copyable with
      | true =>
          have saved : e.step .save = { e with aside := some e.current } := by
            simp [Editor.step, Editor.save, same]
          rw [saved]
          exact ⟨current, congrArg some current, same⟩
      | false =>
          have refused : e.step .save = e := by simp [Editor.step, Editor.save, same]
          rw [refused]
          exact ⟨current, aside, same⟩
  | swap =>
      cases kept : d.aside with
      | none =>
          have alone : e.aside = none := by rw [aside, kept]; rfl
          have unchanged : e.step .swap = e := by simp [Editor.step, Editor.swap, alone]
          have stays : d.step copyable .swap = d := by simp [Descent.step, kept]
          rw [unchanged, stays]
          exact ⟨current, aside, same⟩
      | some changes =>
          have two : e.aside = some (w.run changes) := by rw [aside, kept]; rfl
          have exchanged : e.step .swap =
              { e with current := w.run changes, aside := some e.current } := by
            simp [Editor.step, Editor.swap, two]
          have turned : d.step copyable .swap = ⟨changes, some d.current⟩ := by
            simp [Descent.step, kept]
          rw [exchanged, turned]
          exact ⟨rfl, congrArg some current, same⟩

theorem Follows.run {w : Window} {copyable : Bool} {e : Editor} {d : Descent}
    (follows : Follows w copyable e d) (ops : List Op) :
    Follows w copyable (e.run ops) (ops.foldl (Descent.step copyable) d) := by
  induction ops generalizing e d with
  | nil => exact follows
  | cons op ops ih => exact ih (follows.step op)

end Editor

/-- **Writes through a window are confined to it and seen through every later one.**  Whatever
changes are made to a window and to a copy of it, and whenever the copy is taken, each write
replaces the octets at its place and no others; and each of the two windows shows the first
storage with the writes of its own history, in order, and none of the other's. -/
theorem writes_confined (w : Window) (copyable : Bool) (ops : List Editor.Op) :
    let e := Editor.run { current := w, copyable } ops
    let d := Editor.Descent.of copyable ops
    Written w d.current e.current ∧ (e.aside = none ↔ d.aside = none) ∧
      ∀ copy, e.aside = some copy →
        ∃ changes, d.aside = some changes ∧ Written w changes copy := by
  intro e d
  have begins : Editor.Follows w copyable { current := w, copyable } {} := ⟨rfl, rfl, rfl⟩
  obtain ⟨current, aside, -⟩ : Editor.Follows w copyable e d := begins.run ops
  refine ⟨current ▸ written_run w d.current, ?_, fun copy kept => ?_⟩
  · rw [aside, Option.map_eq_none_iff]
  · rw [aside, Option.map_eq_some_iff] at kept
    obtain ⟨changes, found, rfl⟩ := kept
    exact ⟨changes, found, written_run w changes⟩

/-- A copy is taken between two writes to one place, and a third one goes to the copy. -/
example :
    let ops : List Editor.Op := [.edit (.write 0 [1, 2]), .save, .edit (.moveTo 3),
      .edit (.write 0 [3]), .swap, .edit (.fill 9)]
    (Editor.Descent.of true ops).aside =
        some [.write 0 [1, 2], .moveTo 3, .write 0 [3]] ∧
      (Editor.run { current := ⟨.zeros 6, 2, 2, by decide⟩, copyable := true } ops).aside.map
        (fun copy => (copy.bytes, copy.storage.toList)) = some ([3, 0], [0, 0, 1, 3, 0, 0]) ∧
      (Editor.run { current := ⟨.zeros 6, 2, 2, by decide⟩, copyable := true }
        ops).current.storage.toList = [0, 0, 9, 9, 0, 0] := by
  decide

end Window

end MediaTransport
