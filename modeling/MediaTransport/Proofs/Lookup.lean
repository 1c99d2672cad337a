/-
# MediaTransport.Proofs.Lookup -- what stands under a name in a list of pairs

A list of pairs answers for a name with the first pair of that name.  The laws say what it
answers when the pairs of one name are gone, and when what stands under each name has changed.
-/

namespace MediaTransport.Lookup

set_option autoImplicit false

variable {β : Type} (pairs : List (String × β)) (asked name : String)

theorem lookup_cons (value : β) :
    List.lookup asked ((name, value) :: pairs) =
      if asked = name then some value else List.lookup asked pairs := by
  by_cases here : asked = name
  · simp [here]
  · simp [List.lookup_cons, beq_eq_false_iff_ne.2 here, here]

theorem lookup_filter_ne :
    List.lookup asked (pairs.filter fun pair => pair.1 != name) =
      if asked = name then none else List.lookup asked pairs := by
  induction pairs with
  | nil => simp
  | cons pair rest ih =>
      obtain ⟨key, value⟩ := pair
      by_cases gone : key = name
      · rw [List.filter_cons_of_neg (by simpa using gone), ih, lookup_cons, gone]
        split <;> rfl
      · rw [List.filter_cons_of_pos (by simpa using gone), lookup_cons, ih, lookup_cons]
        by_cases here : asked = key
        · simp [here, gone]
        · simp only [if_neg here]

theorem lookup_map (change : String → β → β) :
    List.lookup asked (pairs.map fun pair => (pair.1, change pair.1 pair.2)) =
      (List.lookup asked pairs).map (change asked) := by
  induction pairs with
  | nil => rfl
  | cons pair rest ih =>
      obtain ⟨key, value⟩ := pair
      rw [List.map_cons, lookup_cons, lookup_cons, ih]
      by_cases here : asked = key
      · rw [if_pos here, if_pos here, here]
        rfl
      · rw [if_neg here, if_neg here]

end MediaTransport.Lookup
