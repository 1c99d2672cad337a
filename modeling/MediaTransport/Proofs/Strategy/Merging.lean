/-
# MediaTransport.Proofs.Strategy.Merging -- the override and the fallbacks as one list

An override names a candidate if something is left of it without the blanks around it
(`Overrides`); the fallbacks are taken as they are.  The candidates are told from these names
alone: each of them once, the one of the override first, the others in the order in which the
fallbacks name them first (`Merges`).  Only one list is like that (`Merges.unique`), and it is
the list of the candidates.

Candidates that an override leads are the ones that there are without it, its own name moved
to the front (`candidates_of_overrides`).
-/
import Mathlib.Data.List.Nodup
import Mathlib.Data.List.Perm.Lattice
import MediaTransport.Proofs.Strategy.Selection
import MediaTransport.Proofs.Text.Trimming

namespace MediaTransport.Strategy

set_option autoImplicit false

/-! ## Names without the ones seen before -/

section Distinct

variable (seen names : List String)

theorem mem_distinctFrom_iff (name : String) :
    name ∈ distinctFrom seen names ↔ name ∈ names ∧ name ∉ seen := by
  induction names generalizing seen with
  | nil => simp [distinctFrom]
  | cons first rest ih =>
      unfold distinctFrom
      by_cases known : first ∈ seen
      · rw [if_pos (by simpa using known), ih, List.mem_cons]
        refine and_congr_left fun fresh => ⟨.inr, fun here => here.resolve_left ?_⟩
        rintro rfl
        exact fresh known
      · rw [if_neg (by simpa using known), List.mem_cons, ih, List.mem_cons, List.mem_cons]
        by_cases same : name = first
        · simp [same, known]
        · simp [same]

/-- A name is no earlier for standing behind another one. -/
theorem idxOf_cons_lt_iff {first earlier later : String} (other : earlier ≠ first)
    (another : later ≠ first) :
    (first :: names).idxOf earlier < (first :: names).idxOf later ↔
      names.idxOf earlier < names.idxOf later := by
  rw [List.idxOf_cons_ne _ other.symm, List.idxOf_cons_ne _ another.symm,
    Nat.succ_lt_succ_iff]

/-- Names stay in the order of their first occurrences. -/
theorem distinctFrom_ordered :
    (distinctFrom seen names).Pairwise fun earlier later =>
      names.idxOf earlier < names.idxOf later := by
  -- The names behind the first are other names, so that their places all move by one.
  have moved {seen : List String} {first : String} {rest : List String} (known : first ∈ seen)
      (ordered : (distinctFrom seen rest).Pairwise fun earlier later =>
        rest.idxOf earlier < rest.idxOf later) :
      (distinctFrom seen rest).Pairwise fun earlier later =>
        (first :: rest).idxOf earlier < (first :: rest).idxOf later := by
    have other : ∀ name ∈ distinctFrom seen rest, name ≠ first := by
      rintro name here rfl
      exact ((mem_distinctFrom_iff seen rest name).1 here).2 known
    exact ordered.imp_of_mem fun here there less =>
      (idxOf_cons_lt_iff rest (other _ here) (other _ there)).2 less
  induction names generalizing seen with
  | nil => exact .nil
  | cons first rest ih =>
      unfold distinctFrom
      by_cases known : first ∈ seen
      · rw [if_pos (by simpa using known)]
        exact moved known (ih seen)
      · rw [if_neg (by simpa using known)]
        refine .cons (fun later here => ?_) (moved List.mem_cons_self (ih (first :: seen)))
        have other : later ≠ first := by
          rintro rfl
          exact ((mem_distinctFrom_iff _ rest later).1 here).2 List.mem_cons_self
        rw [List.idxOf_cons_self, List.idxOf_cons_ne _ other.symm]
        exact Nat.succ_pos _

end Distinct

/-! ## Names of an override -/

/-- An override names a candidate by what is left of it without the blanks around it, unless
nothing is left. -/
def Overrides (choice : Option String) (name : String) : Prop :=
  name ≠ "" ∧ ∃ text, choice = some text ∧ Text.Trims text name

variable {choice : Option String} {name : String}

theorem not_overrides_none : ¬ Overrides none name := by
  simp [Overrides]

theorem mem_overriding_iff : name ∈ overriding choice ↔ Overrides choice name := by
  cases choice with
  | none => simp [overriding, not_overrides_none]
  | some text =>
      simp only [overriding, Overrides, Text.trims_iff, Option.some.injEq, exists_eq_left']
      by_cases blank : Text.trim text = ""
      · simp [blank]
      · rw [if_neg (by simpa using blank), List.mem_singleton]
        refine ⟨?_, fun named => named.2.symm⟩
        rintro rfl
        exact ⟨blank, rfl⟩

/-- An override names one candidate at most. -/
theorem overriding_cases (choice : Option String) :
    overriding choice = [] ∨ ∃ name, overriding choice = [name] := by
  cases choice with
  | none => exact .inl rfl
  | some text =>
      rw [overriding]
      split
      · exact .inl rfl
      · exact .inr ⟨_, rfl⟩

theorem overriding_of_overrides (named : Overrides choice name) : overriding choice = [name] := by
  have here := mem_overriding_iff.2 named
  obtain none | ⟨one, only⟩ := overriding_cases choice
  · simp [none] at here
  · rw [only] at here ⊢
    rw [List.mem_singleton.1 here]

theorem Overrides.unique {other : String} (named : Overrides choice name)
    (another : Overrides choice other) : other = name := by
  have here := mem_overriding_iff.2 another
  rw [overriding_of_overrides named] at here
  exact List.mem_singleton.1 here

/-! ## The merge -/

/-- A list of names is the merge of an override and fallbacks. -/
structure Merges (choice : Option String) (fallbacks names : List String) : Prop where
  distinct : names.Nodup
  mem_iff : ∀ name, name ∈ names ↔ Overrides choice name ∨ name ∈ fallbacks
  /-- The name of the override is the first one. -/
  first : ∀ name, Overrides choice name → names.head? = some name
  /-- The other names stand in the order of their first occurrences among the fallbacks. -/
  ordered : names.Pairwise fun earlier later =>
    Overrides choice earlier ∨ fallbacks.idxOf earlier < fallbacks.idxOf later

section Merge

variable {fallbacks names : List String}

/-- Names without duplicates, ordered by their places among the fallbacks, have one order. -/
theorem eq_of_ordered {names others : List String} (same : names.Perm others)
    (ordered : names.Pairwise fun earlier later =>
      fallbacks.idxOf earlier < fallbacks.idxOf later)
    (alike : others.Pairwise fun earlier later =>
      fallbacks.idxOf earlier < fallbacks.idxOf later) : names = others :=
  same.eq_of_pairwise (fun _ _ _ _ less more => absurd less (Nat.lt_asymm more)) ordered alike

/-- The names behind the one of the override are the other names, in their order. -/
theorem Merges.behind (merged : Merges choice fallbacks (name :: names))
    (named : Overrides choice name) :
    names.Pairwise fun earlier later => fallbacks.idxOf earlier < fallbacks.idxOf later := by
  obtain ⟨once, -⟩ := List.nodup_cons.1 merged.distinct
  refine (List.pairwise_cons.1 merged.ordered).2.imp_of_mem fun here there either => ?_
  refine either.resolve_left fun another => once ?_
  rwa [← named.unique another]

/-- There is one merge. -/
theorem Merges.unique {others : List String} (merged : Merges choice fallbacks names)
    (another : Merges choice fallbacks others) : names = others := by
  have same : names.Perm others :=
    (List.perm_ext_iff_of_nodup merged.distinct another.distinct).2 fun name => by
      rw [merged.mem_iff, another.mem_iff]
  by_cases overridden : ∃ name, Overrides choice name
  · obtain ⟨name, named⟩ := overridden
    obtain ⟨rest, rfl⟩ := List.head?_eq_some_iff.1 (merged.first name named)
    obtain ⟨more, rfl⟩ := List.head?_eq_some_iff.1 (another.first name named)
    rw [eq_of_ordered same.cons_inv (merged.behind named) (another.behind named)]
  · have unnamed (name : String) : ¬ Overrides choice name := fun named =>
      overridden ⟨name, named⟩
    exact eq_of_ordered same (merged.ordered.imp fun either => either.resolve_left (unnamed _))
      (another.ordered.imp fun either => either.resolve_left (unnamed _))

theorem candidates_merges (choice : Option String) (fallbacks : List String) :
    Merges choice fallbacks (candidates choice fallbacks) := by
  have mem_iff (name : String) : name ∈ candidates choice fallbacks ↔
      Overrides choice name ∨ name ∈ fallbacks := by
    rw [candidates, mem_distinctFrom_iff, List.mem_append, mem_overriding_iff]
    simp
  refine ⟨candidates_nodup choice fallbacks, mem_iff, fun name named => ?_, ?_⟩
  · rw [candidates, overriding_of_overrides named]
    rfl
  · obtain none | ⟨name, only⟩ := overriding_cases choice
    · rw [candidates, none, List.nil_append]
      exact (distinctFrom_ordered [] fallbacks).imp .inr
    · have named : Overrides choice name := mem_overriding_iff.1 (by simp [only])
      have split : candidates choice fallbacks = name :: distinctFrom [name] fallbacks := by
        rw [candidates, only]
        rfl
      rw [split]
      exact .cons (fun _ _ => .inl named) ((distinctFrom_ordered [name] fallbacks).imp .inr)

theorem merges_iff (names : List String) :
    Merges choice fallbacks names ↔ names = candidates choice fallbacks := by
  refine ⟨fun merged => merged.unique (candidates_merges choice fallbacks), ?_⟩
  rintro rfl
  exact candidates_merges choice fallbacks

/-- Names without duplicates are merged already. -/
theorem merges_of_nodup (distinct : names.Nodup) : Merges none names names where
  distinct := distinct
  mem_iff := by simp [not_overrides_none]
  first := by simp [not_overrides_none]
  ordered := by
    refine List.pairwise_iff_getElem.2 fun i j here there less => .inr ?_
    rwa [distinct.idxOf_getElem i here, distinct.idxOf_getElem j there]

/-- The name of an override is moved to the front of the candidates that there are without it. -/
theorem candidates_of_overrides (fallbacks : List String) (named : Overrides choice name) :
    candidates choice fallbacks = name :: (candidates none fallbacks).erase name := by
  have plain := candidates_merges none fallbacks
  refine ((merges_iff _).1 ⟨?_, fun other => ?_, fun other another => ?_, ?_⟩).symm
  · exact List.nodup_cons.2 ⟨plain.distinct.not_mem_erase, plain.distinct.erase name⟩
  · rw [List.mem_cons, plain.distinct.mem_erase_iff, plain.mem_iff]
    by_cases same : other = name
    · simp [same, named]
    · have unnamed : ¬ Overrides choice other := fun another => same (named.unique another)
      simp [same, unnamed, not_overrides_none]
  · rw [named.unique another]
    rfl
  · refine .cons (fun _ _ => .inl named) ((plain.ordered.sublist List.erase_sublist).imp ?_)
    rintro earlier later (impossible | less)
    · exact absurd impossible not_overrides_none
    · exact .inr less

end Merge

/-- **The candidates are the merge of the override and the fallbacks without duplicates.**  They
are the only list in which each name of either stands once, the override without its blanks
first and the other names in the order of the fallbacks.  Merging them again changes nothing; an
override takes its name to the front and leaves the others in their order; and blanks around an
override make no difference. -/
theorem candidates_characterized (choice : Option String) (fallbacks : List String) :
    (∀ names, Merges choice fallbacks names ↔ names = candidates choice fallbacks) ∧
    candidates none (candidates choice fallbacks) = candidates choice fallbacks ∧
    (∀ name, Overrides choice name →
      candidates choice fallbacks = name :: (candidates none fallbacks).erase name) ∧
    ∀ before text after, Text.Blank before → Text.Blank after →
      candidates (some (before ++ text ++ after)) fallbacks =
        candidates (some text) fallbacks := by
  refine ⟨merges_iff, ?_, fun name => candidates_of_overrides fallbacks,
    fun before text after leading trailing => ?_⟩
  · exact ((merges_iff _).1 (merges_of_nodup (candidates_nodup choice fallbacks))).symm
  · rw [candidates, candidates, overriding, overriding, Text.trim_pad leading trailing]

/-- An override with a blank, among fallbacks that name it and another candidate twice. -/
theorem candidates_characterized_of_padded :
    Overrides (some " b") "b" ∧ Text.Blank "\t" ∧ Text.Blank "\n" ∧
      candidates (some " b") ["a", "b", "a", "c"] =
        "b" :: (candidates none ["a", "b", "a", "c"]).erase "b" ∧
      candidates (some ("\t" ++ " b" ++ "\n")) ["a", "b", "a", "c"] =
        candidates (some " b") ["a", "b", "a", "c"] ∧
      candidates (some " b") ["a", "b", "a", "c"] = ["b", "a", "c"] := by
  have named : Overrides (some " b") "b" :=
    ⟨by decide, " b", rfl, (Text.trims_iff _ _).2 (by decide)⟩
  have tab : Text.isBlank '\t' = true := by decide
  have newline : Text.isBlank '\n' = true := by decide
  have leading : Text.Blank "\t" := by simpa [Text.Blank] using tab
  have trailing : Text.Blank "\n" := by simpa [Text.Blank] using newline
  obtain ⟨-, -, moved, padded⟩ := candidates_characterized (some " b") ["a", "b", "a", "c"]
  exact ⟨named, leading, trailing, moved "b" named, padded "\t" " b" "\n" leading trailing,
    by decide⟩

end MediaTransport.Strategy
