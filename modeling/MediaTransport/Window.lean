/-
# MediaTransport.Window -- a movable window over a byte storage

All parts of the transport read and write a packet through one window: an offset
and a length over a storage whose size never changes.  The field `fits` says that
the window ends inside its storage; offsets and lengths are natural numbers, so
the sum it speaks of never wraps.

A change of the bounds is checked before it is made, so a refused one leaves the
window as it was (`moveTo`, `resize` and `reframe` answer the error alone).  Writes
keep the size of the storage (`Storage.size_overwrite`), hence the window stays where
it is.
-/
import MediaTransport.Storage

namespace MediaTransport

set_option autoImplicit false

/-- An offset and a length over a byte storage. -/
structure Window where
  storage : Storage
  offset : Nat
  length : Nat
  fits : offset + length ≤ storage.size
  deriving DecidableEq

namespace Window

/-- Bounds that end beyond the storage. -/
structure OutOfBounds where
  offset : Nat
  length : Nat
  capacity : Nat
  deriving DecidableEq, Repr

def OutOfBounds.message (e : OutOfBounds) : String :=
  s!"invalid argument: offset={e.offset} + length={e.length} exceeds capacity={e.capacity}"

/-! ## Bounds -/

/-- A window with the given bounds, if they end inside the storage. -/
def make (storage : Storage) (offset length : Nat) : Except OutOfBounds Window :=
  if fits : offset + length ≤ storage.size then .ok ⟨storage, offset, length, fits⟩
  else .error ⟨offset, length, storage.size⟩

/-- The window over the whole storage. -/
def full (storage : Storage) : Window :=
  ⟨storage, 0, storage.size, by omega⟩

/-- The size of the storage. -/
def capacity (w : Window) : Nat :=
  w.storage.size

/-- The octets inside the window. -/
def bytes (w : Window) : Octets :=
  w.storage.slice w.offset w.length

/-- Changes both bounds. -/
def reframe (w : Window) (offset length : Nat) : Except OutOfBounds Window :=
  make w.storage offset length

/-- Changes the offset and keeps the length. -/
def moveTo (w : Window) (offset : Nat) : Except OutOfBounds Window :=
  w.reframe offset w.length

/-- Changes the length and keeps the offset. -/
def resize (w : Window) (length : Nat) : Except OutOfBounds Window :=
  w.reframe w.offset length

/-! ## Writes -/

/-- The window with octets of its storage replaced, inside the window or not. -/
def overwrite (w : Window) (index : Nat) (content : Octets) : Window :=
  { w with storage := w.storage.overwrite index content, fits := w.fits }

/-- Writes at an index of the window; `none` if the write ends outside it. -/
def write (w : Window) (index : Nat) (content : Octets) : Option Window :=
  if index + content.length ≤ w.length then some (w.overwrite (w.offset + index) content)
  else none

/-- Writes at an index of the storage; `none` if the write ends outside it. -/
def writeStorage (w : Window) (index : Nat) (content : Octets) : Option Window :=
  if index + content.length ≤ w.capacity then some (w.overwrite index content) else none

/-- Sets every octet of the window. -/
def fill (w : Window) (value : UInt8) : Window :=
  w.overwrite w.offset (List.replicate w.length value)

/-! ## Laws -/

/-- The window shows its part of the storage. -/
theorem bytes_eq (w : Window) : w.bytes = (w.storage.toList.drop w.offset).take w.length :=
  w.storage.slice_eq w.offset w.length

@[simp] theorem length_bytes (w : Window) : w.bytes.length = w.length := by
  have := w.fits
  simp only [bytes_eq, List.length_take, List.length_drop, Storage.length_toList]
  omega

end Window

end MediaTransport
