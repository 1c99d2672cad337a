/-
# MediaTransport.Proofs.Window.Histories -- a window never leaves its storage

A `Turn` is a change that was asked for, with the window before and after it and the
refusal, if it was refused.  A change of the bounds asks for an offset and a length, of which
it may name one and keep the other (`Edit.bounds?`).  One law says what comes of it
(`edit_of_bounds`): the bounds are set and nothing else is touched, or the refusal tells them
and the capacity, and the window is as before.  A write keeps the bounds.

So a window that was opened on a storage stays inside it whatever is asked of it
(`edits_lawful`).  On a machine the bounds are words of 64 bits and their sum may wrap.  The
check tests for that (`sum?`) and comes to the same as the check in natural numbers
(`sum?_le_iff`); the bounds that it lets through add up without a test.
-/
import Mathlib.Algebra.Ring.Nat
import MediaTransport.Proofs.Window.Edits

namespace MediaTransport.Window

set_option autoImplicit false

/-! ## Sums of words -/

/-- The sum of two words, unless it wraps. -/
def sum? (a b : UInt64) : Option UInt64 :=
  if a ≤ a + b then some (a + b) else none

theorem le_add_iff (a b : UInt64) : a ≤ a + b ↔ a.toNat + b.toNat < 2 ^ 64 := by
  have := a.toNat_lt
  have := b.toNat_lt
  rw [UInt64.le_iff_toNat_le, UInt64.toNat_add]
  omega

theorem toNat_add_of_le {a b : UInt64} (le : a ≤ a + b) :
    (a + b).toNat = a.toNat + b.toNat := by
  rw [UInt64.toNat_add]
  exact Nat.mod_eq_of_lt ((le_add_iff a b).1 le)

/-- The sum of words is tested as the sum of their numbers is. -/
theorem sum?_le_iff (a b limit : UInt64) :
    (∃ stop, sum? a b = some stop ∧ stop ≤ limit) ↔ a.toNat + b.toNat ≤ limit.toNat := by
  by_cases le : a ≤ a + b
  · simp [sum?, le, UInt64.le_iff_toNat_le, toNat_add_of_le le]
  · have wraps := mt (le_add_iff a b).2 le
    have := limit.toNat_lt
    simp only [sum?, le, if_false, reduceCtorEq, false_and, exists_false, false_iff]
    omega

/-! ## One change -/

/-- The bounds that a change asks for; what it does not name is kept.  A write asks for
none. -/
def Edit.bounds? (w : Window) : Edit → Option (Nat × Nat)
  | .moveTo offset => some (offset, w.length)
  | .resize length => some (w.offset, length)
  | .reframe offset length => some (offset, length)
  | _ => none

section Changes

variable {w : Window} {change : Edit} {offset length : Nat}

theorem edit_of_bounds (asked : change.bounds? w = some (offset, length)) :
    w.edit change = (make w.storage offset length).mapError .bounds := by
  cases change <;> cases asked <;> rfl

theorem edit_of_fits (asked : change.bounds? w = some (offset, length))
    (fits : offset + length ≤ w.capacity) :
    w.edit change = .ok ⟨w.storage, offset, length, fits⟩ := by
  have made : make w.storage offset length = .ok ⟨w.storage, offset, length, fits⟩ := dif_pos fits
  rw [edit_of_bounds asked, made]
  rfl

theorem edit_of_not_fits (asked : change.bounds? w = some (offset, length))
    (outside : ¬ offset + length ≤ w.capacity) :
    w.edit change = .error (.bounds ⟨offset, length, w.capacity⟩) := by
  have refused : make w.storage offset length = .error ⟨offset, length, w.capacity⟩ :=
    dif_neg outside
  rw [edit_of_bounds asked, refused]
  rfl

/-- A write stays within the bounds that the window has. -/
theorem edit_of_write {changed : Window} (write : change.bounds? w = none)
    (edited : w.edit change = .ok changed) :
    changed.offset = w.offset ∧ changed.length = w.length := by
  cases change with
  | moveTo offset => cases write
  | resize length => cases write
  | reframe offset length => cases write
  | fill value =>
      cases edited
      exact ⟨rfl, rfl⟩
  | write index content =>
      simp only [edit, Window.write] at edited
      split at edited
      · rename_i written
        split at written
        · cases written
          cases edited
          exact ⟨rfl, rfl⟩
        · cases written
      · cases edited
  | writeStorage index content =>
      simp only [edit, writeStorage] at edited
      split at edited
      · rename_i written
        split at written
        · cases written
          cases edited
          exact ⟨rfl, rfl⟩
        · cases written
      · cases edited

end Changes

/-! ## Turns -/

/-- A change that was asked for. -/
structure Turn where
  before : Window
  change : Edit
  /-- Why the change was not made, if it was not. -/
  refusal : Option EditError
  after : Window
  deriving DecidableEq

/-- The turn of a change that is asked for on a window. -/
def Turn.of (w : Window) (change : Edit) : Turn where
  before := w
  change := change
  refusal :=
    match w.edit change with
    | .ok _ => none
    | .error e => some e
  after := w.after change

/-- The turns of a history of changes. -/
def turns : Window → List Edit → List Turn
  | _, [] => []
  | w, change :: later => .of w change :: turns (w.after change) later

theorem turn_of_ok {w changed : Window} {change : Edit} (edited : w.edit change = .ok changed) :
    Turn.of w change = ⟨w, change, none, changed⟩ := by
  simp only [Turn.of, after, edited]

theorem turn_of_error {w : Window} {change : Edit} {e : EditError}
    (refused : w.edit change = .error e) : Turn.of w change = ⟨w, change, some e, w⟩ := by
  simp only [Turn.of, after, refused]

/-- What is kept and what comes of a change, on a storage of some capacity. -/
structure Turn.Lawful (capacity : Nat) (turn : Turn) : Prop where
  inside : turn.after.offset + turn.after.length ≤ capacity
  kept : turn.after.capacity = capacity
  /-- A window that is taken has all its octets, each of them from the storage. -/
  shown : turn.after.bytes.length = turn.after.length ∧
    ∀ i < turn.after.length,
      turn.after.bytes[i]? = turn.after.storage.toList[turn.after.offset + i]?
  /-- In words, the window begins before it ends and ends inside the storage. -/
  range : ∀ size offset length : UInt64, size.toNat = capacity →
    offset.toNat = turn.after.offset → length.toNat = turn.after.length →
      offset ≤ offset + length ∧ offset + length ≤ size
  /-- New bounds are accepted if they end inside the storage, and then they alone change. -/
  accepted : ∀ offset length, turn.change.bounds? turn.before = some (offset, length) →
    (turn.refusal = none ↔ offset + length ≤ capacity) ∧
      (turn.refusal = none → turn.after.offset = offset ∧ turn.after.length = length ∧
        turn.after.storage = turn.before.storage)
  /-- In words, they are accepted if their sum does not wrap and is inside the storage. -/
  checked : ∀ size offset length : UInt64, size.toNat = capacity →
    turn.change.bounds? turn.before = some (offset.toNat, length.toNat) →
      (turn.refusal = none ↔ ∃ stop, sum? offset length = some stop ∧ stop ≤ size)
  /-- A refusal changes nothing and tells what was asked for. -/
  refused : ∀ e, turn.refusal = some e → turn.after = turn.before ∧
    ∀ offset length, turn.change.bounds? turn.before = some (offset, length) →
      e = .bounds ⟨offset, length, capacity⟩
  /-- A write moves nothing. -/
  written : turn.change.bounds? turn.before = none →
    turn.after.offset = turn.before.offset ∧ turn.after.length = turn.before.length

/-- Octets of a window are octets of its storage. -/
theorem getElem?_bytes {w : Window} {i : Nat} (inside : i < w.length) :
    w.bytes[i]? = w.storage.toList[w.offset + i]? := by
  rw [bytes_eq, List.getElem?_take_of_lt inside, List.getElem?_drop]

/-- The bounds of a window add up in words. -/
theorem range_of_fits (w : Window) {size offset length : UInt64}
    (capacity : size.toNat = w.capacity) (start : offset.toNat = w.offset)
    (extent : length.toNat = w.length) :
    offset ≤ offset + length ∧ offset + length ≤ size := by
  have fits : offset.toNat + length.toNat ≤ size.toNat := by
    rw [start, extent, capacity]
    exact w.fits
  obtain ⟨stop, sum, le⟩ := (sum?_le_iff offset length size).2 fits
  unfold sum? at sum
  split at sum
  · cases sum
    exact ⟨‹_›, le⟩
  · cases sum

theorem Turn.lawful_of (w : Window) (change : Edit) : (Turn.of w change).Lawful w.capacity := by
  have capacity : (Turn.of w change).after.capacity = w.capacity := capacity_after w change
  have inside : (Turn.of w change).after.offset + (Turn.of w change).after.length ≤ w.capacity :=
    capacity ▸ (Turn.of w change).after.fits
  have bounds : ∀ offset length, change.bounds? w = some (offset, length) →
      ((Turn.of w change).refusal = none ↔ offset + length ≤ w.capacity) ∧
        ((Turn.of w change).refusal = none →
          (Turn.of w change).after.offset = offset ∧ (Turn.of w change).after.length = length ∧
            (Turn.of w change).after.storage = w.storage) := by
    intro offset length asked
    by_cases fits : offset + length ≤ w.capacity
    · simp [turn_of_ok (edit_of_fits asked fits), fits]
    · simp [turn_of_error (edit_of_not_fits asked fits), fits]
  refine ⟨inside, capacity, ⟨length_bytes _, fun i => getElem?_bytes⟩, ?_, bounds, ?_, ?_, ?_⟩
  · intro size offset length whole
    exact (Turn.of w change).after.range_of_fits (whole.trans capacity.symm)
  · intro size offset length whole asked
    rw [(bounds _ _ asked).1, sum?_le_iff, whole]
  · intro e refusal
    cases edited : w.edit change with
    | ok changed =>
        rw [turn_of_ok edited] at refusal
        cases refusal
    | error e' =>
        rw [turn_of_error edited] at refusal ⊢
        cases refusal
        refine ⟨rfl, fun offset length asked => ?_⟩
        have outside : ¬ offset + length ≤ w.capacity := fun fits => by
          rw [edit_of_fits asked fits] at edited
          cases edited
        rw [edit_of_not_fits asked outside] at edited
        exact (Except.error.inj edited).symm
  · intro write
    cases edited : w.edit change with
    | ok changed =>
        rw [turn_of_ok edited]
        exact edit_of_write write edited
    | error e =>
        rw [turn_of_error edited]
        exact ⟨rfl, rfl⟩

/-! ## A whole history -/

/-- A window as it is opened on a storage: over all of it, or over a part that was asked
for. -/
inductive Opened (storage : Storage) : Window → Prop where
  | full : Opened storage (full storage)
  | make {offset length : Nat} {w : Window} (made : make storage offset length = .ok w) :
      Opened storage w

theorem Opened.capacity {storage : Storage} {w : Window} (opened : Opened storage w) :
    w.capacity = storage.size := by
  cases opened with
  | full => rfl
  | make made => exact congrArg Storage.size (storage_of_make made)

theorem lawful_of_mem_turns {w : Window} {changes : List Edit} {turn : Turn}
    (member : turn ∈ turns w changes) : turn.Lawful w.capacity := by
  induction changes generalizing w with
  | nil => cases member
  | cons change later ih =>
      rcases List.mem_cons.1 member with rfl | rest
      · exact Turn.lawful_of w change
      · exact capacity_after w change ▸ ih rest

/-- **Whatever changes are asked of a window that was opened on a storage, it stays inside;
new bounds are set if they end inside the storage, and otherwise refused without a trace.** -/
theorem edits_lawful {storage : Storage} {w : Window} (opened : Opened storage w)
    (changes : List Edit) :
    w.offset + w.length ≤ storage.size ∧ w.capacity = storage.size ∧
      ∀ turn ∈ turns w changes, turn.Lawful storage.size := by
  have capacity := opened.capacity
  refine ⟨capacity ▸ w.fits, capacity, fun turn member => ?_⟩
  rw [← capacity]
  exact lawful_of_mem_turns member

/-- Twelve octets: bounds that are too large, and some whose sum wraps to one. -/
theorem edits_lawful_of_twelve :
    ∃ w, make (.zeros 12) 4 4 = .ok w ∧ Opened (.zeros 12) w ∧
      (turns w [.moveTo 9, .reframe 18446744073709551615 2, .write 1 [7, 8], .resize 8,
          .writeStorage 11 [9], .write 8 [1]]).map
        (fun turn => (turn.refusal, turn.after.offset, turn.after.length)) =
        [(some (.bounds ⟨9, 4, 12⟩), 4, 4),
          (some (.bounds ⟨18446744073709551615, 2, 12⟩), 4, 4), (none, 4, 4), (none, 4, 8),
          (none, 4, 8), (some .outOfRange, 4, 8)] ∧
      w.offset + w.length ≤ 12 ∧ w.capacity = 12 ∧
      ∀ turn ∈ turns w [.moveTo 9, .reframe 18446744073709551615 2, .write 1 [7, 8], .resize 8,
        .writeStorage 11 [9], .write 8 [1]], turn.Lawful 12 := by
  have made : make (.zeros 12) 4 4 = .ok ⟨.zeros 12, 4, 4, by decide⟩ := rfl
  exact ⟨_, made, .make made, by decide, edits_lawful (.make made) _⟩

end MediaTransport.Window
