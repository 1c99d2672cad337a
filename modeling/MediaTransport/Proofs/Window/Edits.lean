/-
# MediaTransport.Proofs.Window.Edits -- what an edit of a window leaves alone

No edit, carried out or refused, changes the size of the storage below a window.
-/
import MediaTransport.Window.Edit

namespace MediaTransport.Window

set_option autoImplicit false

/-- New bounds leave the storage alone. -/
theorem storage_of_make {storage : Storage} {offset length : Nat} {w : Window}
    (made : make storage offset length = .ok w) : w.storage = storage := by
  unfold make at made
  split at made
  · cases made
    rfl
  · cases made

theorem capacity_edit {w changed : Window} {change : Edit} (edited : w.edit change = .ok changed) :
    changed.capacity = w.capacity := by
  have reframed : ∀ offset length,
      (w.reframe offset length).mapError EditError.bounds = .ok changed →
        changed.capacity = w.capacity := by
    intro offset length moved
    cases made : w.reframe offset length with
    | error e =>
        rw [made] at moved
        cases moved
    | ok framed =>
        rw [made] at moved
        have same : framed = changed := Except.ok.inj moved
        exact same ▸ congrArg Storage.size (storage_of_make made)
  cases change with
  | moveTo offset => exact reframed _ _ edited
  | resize length => exact reframed _ _ edited
  | reframe offset length => exact reframed _ _ edited
  | fill value =>
      cases edited
      rfl
  | write index content =>
      simp only [edit, write] at edited
      split at edited
      · rename_i written
        split at written
        · cases written
          cases edited
          rfl
        · cases written
      · cases edited
  | writeStorage index content =>
      simp only [edit, writeStorage] at edited
      split at edited
      · rename_i written
        split at written
        · cases written
          cases edited
          rfl
        · cases written
      · cases edited

@[simp] theorem capacity_after (w : Window) (change : Edit) :
    (w.after change).capacity = w.capacity := by
  unfold after
  split
  · rename_i changed edited
    exact capacity_edit edited
  · rfl

end MediaTransport.Window
