/-
# MediaTransport.Proofs.Packet.Sequence.Sorting -- a window of numbers is sorted by place

`compare` does not order all sequence numbers: they lie on a circle, and going on from later to
later one comes back to where one began.  Numbers that are less than half the number space
ahead of some base (`Within`) lie on an arc, and there the later of two numbers is the one
farther from the base (`isAfter_of_within`).  Distances are ordered as all numbers are, so what
holds of any sort by number holds of these.

A list of such numbers has one arrangement in which the distances do not fall, and sorting
finds it (`Within.eq_sort_iff`).  It is also the only one in which no number is after the next,
so it makes no difference which numbers a sort compares (`Within.ascending_iff_isChain`).  The
base is no part of the arrangement: every base whose arc holds the numbers tells the same one.
-/
import Mathlib.Data.List.Chain
import MediaTransport.Proofs.Packet.Sequence.Places

namespace MediaTransport.Packet.Sequence

set_option autoImplicit false

/-! ## Two numbers -/

theorem compare_eq_iff (a b : UInt16) : compare a b = .eq ↔ a = b := by
  unfold compare
  by_cases same : a = b
  · simp only [same, if_true]
  · simp only [same, if_false, iff_false]
    split <;> split <;> simp only [reduceCtorEq, not_false_eq_true]

/-- Two numbers that are opposite to each other are no exception. -/
theorem compare_swap (a b : UInt16) : compare b a = (compare a b).swap := by
  unfold compare
  rcases Nat.lt_trichotomy a.toNat b.toNat with less | same | greater
  · have differ : a ≠ b := fun equal => Nat.ne_of_lt less (congrArg UInt16.toNat equal)
    simp only [if_neg differ, if_neg differ.symm, UInt16.lt_iff_toNat_lt, less,
      Nat.lt_asymm less, if_true, if_false]
    split <;> rfl
  · have same := UInt16.toNat_inj.1 same
    simp only [same, if_true, Ordering.swap_eq]
  · have differ : a ≠ b := fun equal => Nat.ne_of_gt greater (congrArg UInt16.toNat equal)
    simp only [if_neg differ, if_neg differ.symm, UInt16.lt_iff_toNat_lt, greater,
      Nat.lt_asymm greater, if_true, if_false]
    split <;> rfl

/-! ## Distances from a base -/

/-- The distance leads from the base to the number. -/
theorem onWire_add_distance (base n : UInt16) :
    onWire (base.toNat + (distance base n).toNat) = n := by
  have := base.toNat_lt
  have := n.toNat_lt
  have arrived := toNat_onWire (base.toNat + (distance base n).toNat)
  rw [distance, UInt16.toNat_sub] at arrived ⊢
  apply UInt16.toNat_inj.1
  omega

theorem distance_inj {base a b : UInt16} : distance base a = distance base b ↔ a = b := by
  rw [distance, distance, UInt16.sub_left_inj]

/-- Going round the circle together changes no distance. -/
theorem distance_add (base n offset : UInt16) :
    distance (base + offset) (n + offset) = distance base n := by
  rw [distance, distance, UInt16.sub_eq_iff_eq_add, ← UInt16.add_assoc, UInt16.sub_add_cancel]

/-- On an arc of less than half the circle, the later number is the one farther from the
base. -/
theorem isAfter_of_within {base a b : UInt16} (first : distance base a ≤ 32767)
    (second : distance base b ≤ 32767) :
    isAfter a b = decide (distance base b < distance base a) := by
  have near : ((base.toNat + (distance base a).toNat : Int) -
      (base.toNat + (distance base b).toNat)).natAbs ≤ 32767 := by
    have : (distance base a).toNat ≤ 32767 := UInt16.le_iff_toNat_le.1 first
    have : (distance base b).toNat ≤ 32767 := UInt16.le_iff_toNat_le.1 second
    omega
  have ordered := isAfter_onWire near
  rw [onWire_add_distance, onWire_add_distance] at ordered
  rw [ordered, decide_eq_decide, UInt16.lt_iff_toNat_lt]
  omega

/-! ## Lists of numbers -/

/-- All numbers are less than half the number space ahead of a base. -/
def Within (base : UInt16) (numbers : List UInt16) : Prop :=
  ∀ n ∈ numbers, distance base n ≤ 32767

/-- The distances of the numbers from a base do not fall. -/
def Ascending (base : UInt16) (numbers : List UInt16) : Prop :=
  numbers.Pairwise fun a b => distance base a ≤ distance base b

instance (base : UInt16) (numbers : List UInt16) : Decidable (Within base numbers) :=
  List.decidableBAll _ numbers

instance (base : UInt16) (numbers : List UInt16) : Decidable (Ascending base numbers) :=
  inferInstanceAs (Decidable (numbers.Pairwise _))

/-- Numbers have one arrangement only in which the distances do not fall. -/
theorem eq_of_ascending {base : UInt16} {numbers arranged : List UInt16}
    (perm : arranged.Perm numbers) (first : Ascending base arranged)
    (second : Ascending base numbers) : arranged = numbers := by
  refine List.Perm.eq_of_pairwise (fun a b _ _ le ge => ?_) first second perm
  exact distance_inj.1 (UInt16.le_antisymm le ge)

theorem sort_perm (numbers : List UInt16) : (sort numbers).Perm numbers :=
  List.mergeSort_perm numbers _

namespace Within

variable {base : UInt16} {numbers arranged : List UInt16}

theorem of_perm (within : Within base numbers) (perm : arranged.Perm numbers) :
    Within base arranged :=
  fun n member => within n (perm.subset member)

theorem isAfter_eq_false_iff (within : Within base numbers) {a b : UInt16} (first : a ∈ numbers)
    (second : b ∈ numbers) : isAfter a b = false ↔ distance base a ≤ distance base b := by
  rw [isAfter_of_within (within a first) (within b second), decide_eq_false_iff_not,
    UInt16.not_lt]

/-- The test that sorting makes of two numbers is made of their distances. -/
theorem compare_bne_gt (within : Within base numbers) {a b : UInt16} (first : a ∈ numbers)
    (second : b ∈ numbers) :
    (compare a b != .gt) = decide (distance base a ≤ distance base b) := by
  rw [Bool.eq_iff_iff, decide_eq_true_eq, ← within.isAfter_eq_false_iff first second, isAfter,
    bne, Bool.not_eq_true']

/-- The distances of the sorted numbers are the sorted distances. -/
theorem ascending_sort (within : Within base numbers) : Ascending base (sort numbers) := by
  have distances : (sort numbers).map (distance base) =
      (numbers.map (distance base)).mergeSort fun x y => decide (x ≤ y) :=
    List.map_mergeSort fun a first b second => within.compare_bne_gt first second
  have sorted : ((numbers.map (distance base)).mergeSort fun x y => decide (x ≤ y)).Pairwise
      fun x y => decide (x ≤ y) :=
    List.pairwise_mergeSort (by simpa using fun a b c => UInt16.le_trans)
      (by simpa using UInt16.le_total) _
  rw [← distances, List.pairwise_map] at sorted
  simpa only [Ascending, decide_eq_true_eq] using sorted

theorem eq_sort_iff (within : Within base numbers) :
    arranged = sort numbers ↔ arranged.Perm numbers ∧ Ascending base arranged := by
  constructor
  · rintro rfl
    exact ⟨sort_perm numbers, within.ascending_sort⟩
  · rintro ⟨perm, ascending⟩
    exact eq_of_ascending (perm.trans (sort_perm numbers).symm) ascending within.ascending_sort

/-- Neighbours in order are enough, since distances are ordered transitively. -/
theorem ascending_iff_isChain (within : Within base numbers) :
    Ascending base numbers ↔ numbers.IsChain fun a b => isAfter a b = false := by
  have neighbours : (numbers.map (distance base)).IsChain (· ≤ ·) ↔
      numbers.IsChain fun a b => isAfter a b = false := by
    rw [List.isChain_map]
    exact List.IsChain.iff_of_mem_imp fun a b first second =>
      (within.isAfter_eq_false_iff first second).symm
  rw [← neighbours, List.isChain_iff_pairwise, List.pairwise_map, Ascending]

theorem sort_eq_of_perm (within : Within base numbers) (perm : arranged.Perm numbers) :
    sort arranged = sort numbers :=
  within.eq_sort_iff.2
    ⟨(sort_perm arranged).trans perm, (within.of_perm perm).ascending_sort⟩

theorem add (within : Within base numbers) (offset : UInt16) :
    Within (base + offset) (numbers.map (· + offset)) := by
  intro n member
  obtain ⟨earlier, among, rfl⟩ := List.mem_map.1 member
  rw [distance_add]
  exact within earlier among

theorem sort_add (within : Within base numbers) (offset : UInt16) :
    sort (numbers.map (· + offset)) = (sort numbers).map (· + offset) := by
  refine (List.map_mergeSort fun a first b second => ?_).symm
  rw [within.compare_bne_gt first second,
    (within.add offset).compare_bne_gt (List.mem_map_of_mem first) (List.mem_map_of_mem second),
    distance_add, distance_add]

end Within

/-! ## Sorting -/

/-- What sorting makes of numbers on an arc that begins at a base. -/
structure SortsByPlace (base : UInt16) (numbers : List UInt16) : Prop where
  /-- The numbers in the order of their distances from the base, and nothing else. -/
  place : ∀ arranged,
    arranged = sort numbers ↔ arranged.Perm numbers ∧ Ascending base arranged
  /-- The one arrangement in which no number is after the next, however it is come by. -/
  neighbours : ∀ arranged,
    arranged = sort numbers ↔
      arranged.Perm numbers ∧ arranged.IsChain fun a b => isAfter a b = false
  /-- The order in which the numbers come makes no difference. -/
  shuffled : ∀ arranged, arranged.Perm numbers → sort arranged = sort numbers
  /-- Nor does the base, as long as its arc holds them. -/
  based : ∀ other, Within other numbers → ∀ arranged, arranged.Perm numbers →
    (Ascending other arranged ↔ Ascending base arranged)
  moved : ∀ offset, sort (numbers.map (· + offset)) = (sort numbers).map (· + offset)

/-- **Sequence numbers are sorted by their places in a window**: of any list of numbers less than
half the number space ahead of a base, sorting gives the arrangement by distance from the base,
wherever on the circle the window lies.  Two numbers alone are told apart and ordered whether
they lie in a window or not. -/
theorem sort_by_place :
    (∀ a b, (compare a b = .eq ↔ a = b) ∧ compare b a = (compare a b).swap ∧
      (isAfter a b = true ↔
        (0 < (distance b a).toNat ∧ (distance b a).toNat < halfSpace) ∨
          ((distance b a).toNat = halfSpace ∧ a.toNat < b.toNat))) ∧
      ∀ base numbers, Within base numbers → SortsByPlace base numbers := by
  refine ⟨fun a b => ⟨compare_eq_iff a b, compare_swap a b, isAfter_iff a b⟩, ?_⟩
  intro base numbers within
  refine ⟨fun arranged => within.eq_sort_iff, fun arranged => ?_,
    fun arranged => within.sort_eq_of_perm, fun other around arranged perm => ?_,
    within.sort_add⟩
  · rw [within.eq_sort_iff]
    exact and_congr_right fun perm => (within.of_perm perm).ascending_iff_isChain
  · rw [(around.of_perm perm).ascending_iff_isChain, (within.of_perm perm).ascending_iff_isChain]

/-- A window that reaches from 65534 to 32765, with one number twice. -/
theorem sort_by_place_across_end :
    Within 65534 [2, 32765, 65535, 65534, 1, 65535] ∧
      [65534, 65535, 65535, 1, 2, 32765] = sort [2, 32765, 65535, 65534, 1, 65535] ∧
      [0, 1, 1, 3, 4, 32767] = sort ([2, 32765, 65535, 65534, 1, 65535].map (· + 2)) := by
  have within : Within 65534 [2, 32765, 65535, 65534, 1, 65535] := by decide
  have sorts := sort_by_place.2 _ _ within
  have arranged : [65534, 65535, 65535, 1, 2, 32765] = sort [2, 32765, 65535, 65534, 1, 65535] :=
    (sorts.place _).2 ⟨by decide, by decide⟩
  refine ⟨within, arranged, ?_⟩
  rw [sorts.moved, ← arranged]
  decide

end MediaTransport.Packet.Sequence
