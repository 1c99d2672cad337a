/-
# MediaTransport.Window.Edit -- changes to a window, as data

An `Edit` is one change of the bounds or the contents of a window, so that a
history of changes is a list.  `Window.edit` carries one out or says why not; a
refused edit changes nothing.  `Editor` adds a second window that is kept aside:
a copy shares no storage with the window it was taken of.
-/
import MediaTransport.Window

namespace MediaTransport.Window

set_option autoImplicit false

/-- One change of a window. -/
inductive Edit where
  | moveTo (offset : Nat)
  | resize (length : Nat)
  | reframe (offset length : Nat)
  /-- Sets every octet of the window. -/
  | fill (value : UInt8)
  /-- Writes at an index of the window. -/
  | write (index : Nat) (content : Octets)
  /-- Writes at an index of the storage. -/
  | writeStorage (index : Nat) (content : Octets)
  deriving DecidableEq, Repr

/-- Why an edit was refused. -/
inductive EditError where
  | bounds (error : OutOfBounds)
  /-- A write that ends outside the window or the storage. -/
  | outOfRange
  deriving DecidableEq, Repr

/-- Carries out one edit. -/
def edit (w : Window) : Edit → Except EditError Window
  | .moveTo offset => (w.moveTo offset).mapError .bounds
  | .resize length => (w.resize length).mapError .bounds
  | .reframe offset length => (w.reframe offset length).mapError .bounds
  | .fill value => .ok (w.fill value)
  | .write index content =>
    match w.write index content with
    | some changed => .ok changed
    | none => .error .outOfRange
  | .writeStorage index content =>
    match w.writeStorage index content with
    | some changed => .ok changed
    | none => .error .outOfRange

/-- The window after an edit, which is the old one if the edit was refused. -/
def after (w : Window) (change : Edit) : Window :=
  match w.edit change with
  | .ok changed => changed
  | .error _ => w

/-- A window under edit, with at most one copy kept aside.  A window on borrowed
storage cannot be copied. -/
structure Editor where
  current : Window
  copyable : Bool
  aside : Option Window := none

namespace Editor

/-- Keeps a copy of the window; says whether it could be copied. -/
def save (e : Editor) : Bool × Editor :=
  if e.copyable then (true, { e with aside := some e.current }) else (false, e)

/-- Exchanges the window with the copy; says whether there was one. -/
def swap (e : Editor) : Bool × Editor :=
  match e.aside with
  | some copy => (true, { e with current := copy, aside := some e.current })
  | none => (false, e)

end Editor

end MediaTransport.Window
