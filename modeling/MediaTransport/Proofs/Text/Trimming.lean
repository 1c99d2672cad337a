/-
# MediaTransport.Proofs.Text.Trimming -- what trimming leaves of a text

A text is blanks, a middle and blanks again, and the middle is trimmed if it neither starts nor
ends with a blank (`Trims`).  A text has exactly one such middle, and `trim` finds it
(`trims_iff`); so blanks that are put around a text make no difference (`trim_pad`).
-/
import Mathlib.Data.List.TakeWhile
import MediaTransport.Text.Blank

namespace MediaTransport.Text

set_option autoImplicit false

/-- A text of nothing but blanks. -/
def Blank (text : String) : Prop :=
  ∀ c ∈ text.toList, isBlank c = true

/-- The middle of a text: all but the blanks at its ends. -/
structure Trims (text middle : String) : Prop where
  around : ∃ before after : String, Blank before ∧ Blank after ∧ text = before ++ middle ++ after
  first : ∀ c, middle.toList.head? = some c → isBlank c = false
  last : ∀ c, middle.toList.getLast? = some c → isBlank c = false

/-! ## Characters -/

theorem head?_dropWhile {text : List Char} {c : Char}
    (first : (text.dropWhile isBlank).head? = some c) : isBlank c = false := by
  simpa [first] using List.head?_dropWhile_not isBlank text

theorem dropWhile_of_head? {text : List Char}
    (first : ∀ c, text.head? = some c → isBlank c = false) : text.dropWhile isBlank = text := by
  cases text with
  | nil => rfl
  | cons c rest => exact List.dropWhile_cons_of_neg (by simp [first c rfl])

theorem trimChars_pad (before text after : List Char) (leading : ∀ c ∈ before, isBlank c = true)
    (trailing : ∀ c ∈ after, isBlank c = true) :
    trimChars (before ++ text ++ after) = trimChars text := by
  have front : (before ++ text ++ after).dropWhile isBlank = (text ++ after).dropWhile isBlank := by
    rw [List.append_assoc, List.dropWhile_append_of_pos leading]
  rw [trimChars, trimChars, front, List.dropWhile_append]
  split
  · rename_i nothing
    have none : text.dropWhile isBlank = [] := by simpa using nothing
    have gone : after.dropWhile isBlank = [] := List.dropWhile_eq_nil_iff.2 trailing
    rw [none, gone]
  · rw [List.reverse_append, List.dropWhile_append_of_pos (by simpa using trailing)]

/-- What trimming takes off are blanks, in front and behind. -/
theorem exists_trimChars (text : List Char) : ∃ before after : List Char,
    (∀ c ∈ before, isBlank c = true) ∧ (∀ c ∈ after, isBlank c = true) ∧
      text = before ++ trimChars text ++ after := by
  refine ⟨text.takeWhile isBlank,
    ((text.dropWhile isBlank).reverse.takeWhile isBlank).reverse,
    fun c => List.mem_takeWhile_imp, fun c here => ?_, ?_⟩
  · exact List.mem_takeWhile_imp (List.mem_reverse.1 here)
  · rw [trimChars, List.append_assoc, ← List.reverse_append, List.takeWhile_append_dropWhile,
      List.reverse_reverse, List.takeWhile_append_dropWhile]

/-- The front of a text that does not start with a blank does not start with one. -/
theorem head?_trimChars {text : List Char} {c : Char} (first : (trimChars text).head? = some c) :
    isBlank c = false := by
  obtain ⟨rest, start⟩ := List.head?_eq_some_iff.1 first
  have inside : text.dropWhile isBlank = trimChars text ++
      ((text.dropWhile isBlank).reverse.takeWhile isBlank).reverse := by
    rw [trimChars, ← List.reverse_append, List.takeWhile_append_dropWhile, List.reverse_reverse]
  have outside : (text.dropWhile isBlank).head? = some c := by
    rw [inside, start]
    rfl
  exact head?_dropWhile outside

theorem getLast?_trimChars {text : List Char} {c : Char}
    (last : (trimChars text).getLast? = some c) : isBlank c = false := by
  rw [trimChars, List.getLast?_reverse] at last
  exact head?_dropWhile last

theorem trimChars_of_trimmed {text : List Char}
    (first : ∀ c, text.head? = some c → isBlank c = false)
    (last : ∀ c, text.getLast? = some c → isBlank c = false) : trimChars text = text := by
  rw [trimChars, dropWhile_of_head? first, dropWhile_of_head? (by simpa using last),
    List.reverse_reverse]

/-! ## Texts -/

theorem trim_pad {before after : String} (leading : Blank before) (trailing : Blank after)
    (text : String) : trim (before ++ text ++ after) = trim text := by
  rw [trim, trim, String.toList_append, String.toList_append,
    trimChars_pad _ _ _ leading trailing]

/-- A text has one middle, the trimmed text. -/
theorem trims_iff (text middle : String) : Trims text middle ↔ trim text = middle := by
  constructor
  · rintro ⟨⟨before, after, leading, trailing, rfl⟩, first, last⟩
    rw [trim_pad leading trailing, trim, trimChars_of_trimmed first last, String.ofList_toList]
  · rintro rfl
    obtain ⟨before, after, leading, trailing, split⟩ := exists_trimChars text.toList
    refine ⟨⟨String.ofList before, String.ofList after, ?_, ?_, ?_⟩, fun c first => ?_,
      fun c last => ?_⟩
    · simpa [Blank] using leading
    · simpa [Blank] using trailing
    · rw [← String.toList_inj]
      simpa [trim] using split
    · exact head?_trimChars (by simpa [trim] using first)
    · exact getLast?_trimChars (by simpa [trim] using last)

end MediaTransport.Text
