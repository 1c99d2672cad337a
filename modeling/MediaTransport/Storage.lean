/-
# MediaTransport.Storage -- octets whose number never changes

A storage begins as zeros and is written to in places.  It keeps its front only: the
octets up to the last one that was written.  Every octet past the front is zero, so a
new storage costs the same whatever its size.

`toList` is what a storage holds; two storages that hold the same may keep fronts of
different lengths.  The laws say of each operation what it does to that list: a slice is
a slice of it (`slice_eq`), a write that ends inside replaces exactly the octets it is
given (`toList_overwrite`), and a storage that is fitted to its own size is unchanged
(`fit_size`).
-/
import MediaTransport.Octets

namespace MediaTransport

set_option autoImplicit false

/-- A fixed number of octets, of which those past the front are zero. -/
structure Storage where
  size : Nat
  /-- The octets up to the last one that was written. -/
  front : Octets
  front_le : front.length ≤ size
  deriving DecidableEq, Repr

namespace Storage

/-- All octets. -/
def toList (s : Storage) : Octets :=
  s.front ++ List.replicate (s.size - s.front.length) 0

/-- A storage that nothing has been written to. -/
def zeros (size : Nat) : Storage :=
  ⟨size, [], by simp⟩

/-- The storage that holds the given octets. -/
def ofList (octets : Octets) : Storage :=
  ⟨octets.length, octets, by simp⟩

/-- The octets from an offset on, at most as many as a length says. -/
def slice (s : Storage) (offset length : Nat) : Octets :=
  let written := (s.front.drop offset).take length
  written ++ List.replicate (min length (s.size - offset) - written.length) 0

/-- The front, cut or filled up with zeros to a length. -/
def frontUpTo (s : Storage) (length : Nat) : Octets :=
  s.front.take length ++ List.replicate (length - s.front.length) 0

/-- Replaces the octets from an index on; what does not fit is left out. -/
def overwrite (s : Storage) (index : Nat) (content : Octets) : Storage :=
  let start := min index s.size
  let fitting := content.take (s.size - start)
  { size := s.size
    front := s.frontUpTo start ++ fitting ++ s.front.drop (start + fitting.length)
    front_le := by
      have := s.front_le
      simp only [frontUpTo, List.length_append, List.length_take, List.length_replicate,
        List.length_drop, start, fitting]
      omega }

/-- The storage cut or filled up with zeros to a size. -/
def fit (s : Storage) (size : Nat) : Storage :=
  ⟨size, s.front.take size, by simp only [List.length_take]; omega⟩

/-! ## Laws -/

@[simp] theorem length_toList (s : Storage) : s.toList.length = s.size := by
  have := s.front_le
  simp only [toList, List.length_append, List.length_replicate]
  omega

@[simp] theorem toList_zeros (size : Nat) : (zeros size).toList = List.replicate size 0 := by
  simp [zeros, toList]

@[simp] theorem size_overwrite (s : Storage) (index : Nat) (content : Octets) :
    (s.overwrite index content).size = s.size := rfl

/-- The octets of a storage one by one. -/
theorem getElem?_toList (s : Storage) (i : Nat) :
    s.toList[i]? = if i < s.size then some (s.front[i]?.getD 0) else none := by
  have := s.front_le
  simp only [toList, List.getElem?_append, List.getElem?_replicate]
  grind

theorem slice_eq (s : Storage) (offset length : Nat) :
    s.slice offset length = (s.toList.drop offset).take length := by
  have := s.front_le
  apply List.ext_getElem?
  intro i
  simp only [slice, List.getElem?_append, List.getElem?_take, List.getElem?_drop,
    List.getElem?_replicate, List.length_take, List.length_drop, getElem?_toList]
  grind

theorem toList_overwrite {s : Storage} {index : Nat} {content : Octets}
    (inside : index + content.length ≤ s.size) :
    (s.overwrite index content).toList =
      s.toList.take index ++ content ++ s.toList.drop (index + content.length) := by
  have := s.front_le
  apply List.ext_getElem?
  intro i
  simp only [getElem?_toList, size_overwrite, List.getElem?_append, List.getElem?_take,
    List.getElem?_drop, List.length_append, List.length_take, length_toList]
  simp only [overwrite, frontUpTo, List.getElem?_append, List.getElem?_take,
    List.getElem?_drop, List.getElem?_replicate, List.length_append, List.length_take,
    List.length_replicate]
  grind

@[simp] theorem fit_size (s : Storage) : s.fit s.size = s := by
  simp only [fit, List.take_of_length_le s.front_le]

end Storage

end MediaTransport
