/-
# MediaTransport.Proofs.Config.Forms -- arrays and objects

A record may be written as an array of its values or as the object that binds its first fields
to them (`Binds`, `Writes`).  Both are read alike.  A record without a tag takes the two through
the same changes in the same order (`readRecord_forms`); an interface takes the contents of its
fields apart from its tag first, and these are the same either way (`readInterface_forms`).
-/
import MediaTransport.Proofs.Config.Members

namespace MediaTransport.Config

set_option autoImplicit false

open Json5

/-! ## The two forms -/

/-- Members bind the first of some fields to values. -/
inductive Binds : List String → List Value → List (Key × Value) → Prop
  | nil {fields : List String} : Binds fields [] []
  | cons {key : Key} {field : String} {fields : List String} {v : Value} {vs : List Value}
    {members : List (Key × Value)} (content : key.content = some field)
    (others : Binds fields vs members) : Binds (field :: fields) (v :: vs) ((key, v) :: members)

/-- A record is written as an array of values or as the object of its first fields. -/
inductive Writes (fields : List String) (vs : List Value) : Value → Prop
  | array (mark : Mark) (fits : vs.length ≤ fields.length) : Writes fields vs (.array mark vs)
  | object {members : List (Key × Value)} (mark : Mark) (binds : Binds fields vs members) :
    Writes fields vs (.object mark members)

section Binding

variable {fields : List String} {vs ws : List Value} {members others : List (Key × Value)}

theorem Binds.values (binds : Binds fields vs members) : members.map Prod.snd = vs := by
  induction binds with
  | nil => rfl
  | cons _ _ ih => rw [List.map_cons, ih]

theorem Binds.contents (binds : Binds fields vs members) :
    (members.map fun member => member.1.content) <+: fields.map some := by
  induction binds with
  | nil => exact List.nil_prefix
  | cons content _ ih =>
      rw [List.map_cons, List.map_cons, List.cons_prefix_cons]
      exact ⟨content, ih⟩

theorem exists_binds (fits : vs.length ≤ fields.length) : ∃ members, Binds fields vs members := by
  induction vs generalizing fields with
  | nil => exact ⟨[], .nil⟩
  | cons v vs ih =>
      cases fields with
      | nil => simp at fits
      | cons field fields =>
          obtain ⟨members, binds⟩ := ih (Nat.le_of_succ_le_succ fits)
          exact ⟨(⟨.start, some field⟩, v) :: members, .cons rfl binds⟩

/-- Members of the same fields have the same names, and values that go with them. -/
theorem Binds.pairs {alike : String → Value → Value → Prop} (binds : Binds fields vs members)
    (alsoBinds : Binds fields ws others)
    (same : List.Forall₂ (fun binding w => alike binding.1 binding.2 w) (fields.zip vs) ws) :
    List.Forall₂ (fun member other => other.1.content = member.1.content ∧
      ∀ name, member.1.content = some name → alike name member.2 other.2) members others := by
  induction binds generalizing ws others with
  | nil =>
      cases alsoBinds with
      | nil => exact .nil
      | cons => simp at same
  | @cons key field fields v vs members content _ ih =>
      cases alsoBinds with
      | nil => simp at same
      | cons alsoContent alsoRest =>
          rw [List.zip_cons_cons, List.forall₂_cons] at same
          refine .cons ⟨alsoContent.trans content.symm, fun name named => ?_⟩ (ih alsoRest same.2)
          obtain rfl := Option.some.inj (content.symm.trans named)
          exact same.1

end Binding

/-! ## Records without a tag -/

theorem readRecord_forms {σ : Type} {expected expected' : String} {fields : List String}
    {change : String → Value → Except DataError (σ → σ)} {vs : List Value}
    {members : List (Key × Value)} (distinct : fields.Nodup) (binds : Binds fields vs members)
    (mark mark' : Mark) (start : σ) :
    (readRecord expected fields (reading change) start (.array mark vs)).toOption =
      (readRecord expected' fields (reading change) start (.object mark' members)).toOption := by
  rw [← binds.values]
  refine readItems_eq_readMembers ?_ (fun _ known => known) distinct (fun _ _ => List.not_mem_nil)
    start
  simpa only [toOption_flawless, toOption_name] using binds.contents

theorem readSingle_forms {α : Type} {expected expected' field : String}
    {read : Value → Except DataError α} {start : α} {vs : List Value}
    {members : List (Key × Value)} (binds : Binds [field] vs members) (mark mark' : Mark) :
    (readSingle expected field read start (.array mark vs)).toOption =
      (readSingle expected' field read start (.object mark' members)).toOption := by
  rw [readSingle_eq, readSingle_eq]
  exact readRecord_forms (List.nodup_singleton field) binds mark mark' start

/-! ## Interfaces -/

/-- The first of some values is this tag, unless it is none. -/
def TagFirst (t : Transport) (vs : List Value) : Prop :=
  ∀ first ∈ vs.head?, ∀ other, readTag first = .ok other → other = t

theorem tagField_not_mem (t : Transport) : tagField ∉ interfaceFields t := by
  cases t <;> decide

theorem nodup_interfaceFields (t : Transport) : (interfaceFields t).Nodup := by
  cases t <;> decide

section Entries

variable {fields : List String} {vs : List Value} {members : List (Key × Value)}

theorem Binds.said (binds : Binds fields vs members) (untagged : tagField ∉ fields)
    {found : List (Transport ⊕ (String × Content))} (yields : Yields entry members found) :
    ∃ said : List (String × Content), found = said.map .inr ∧
      said.map Prod.fst <+: fields ∧ itemContents vs = .ok (said.map Prod.snd) := by
  induction binds generalizing found with
  | nil =>
      obtain rfl := yields_nil_iff.1 yields
      exact ⟨[], rfl, List.nil_prefix, rfl⟩
  | @cons key field fields v vs members content _ ih =>
      obtain ⟨other, untagged⟩ := not_or.1 (List.mem_cons.not.1 untagged)
      obtain ⟨x, found, rfl, one, yields⟩ := yields_cons_iff.1 yields
      obtain ⟨said, rfl, names, contents⟩ := ih untagged yields
      cases x with
      | inl t =>
          have named := (entry_eq_inl_iff.1 one).1
          exact absurd (Option.some.inj (named.symm.trans content)) other
      | inr first =>
          obtain ⟨named, -, content'⟩ := entry_eq_inr_iff.1 one
          obtain rfl := Option.some.inj (content.symm.trans named)
          refine ⟨first :: said, rfl, ?_, ?_⟩
          · rw [List.map_cons, List.cons_prefix_cons]
            exact ⟨rfl, names⟩
          · simp [itemContents, content', contents, bind, Except.bind, pure, Except.pure]

theorem Binds.yields (binds : Binds fields vs members) (untagged : tagField ∉ fields)
    {items : List Content} (contents : itemContents vs = .ok items) :
    ∃ said : List (String × Content), said.map Prod.snd = items ∧
      Yields entry members (said.map .inr) := by
  induction binds generalizing items with
  | nil =>
      obtain rfl := Except.ok.inj contents
      exact ⟨[], rfl, .nil⟩
  | @cons key field fields v vs members content _ ih =>
      obtain ⟨other, untagged⟩ := not_or.1 (List.mem_cons.not.1 untagged)
      rw [← toOption_eq_some_iff] at contents
      simp only [itemContents, toOption_bind, toOption_pure, Option.bind_eq_some_iff,
        toOption_eq_some_iff, Option.some.injEq] at contents
      obtain ⟨first, here, items, there, rfl⟩ := contents
      obtain ⟨said, rfl, yields⟩ := ih untagged there
      exact ⟨(field, first) :: said, rfl,
        .cons (entry_eq_inr_iff.2 ⟨content, Ne.symm other, here⟩) yields⟩

end Entries

@[simp] theorem tagsOf_map_inr (said : List (String × Content)) :
    tagsOf (said.map .inr) = [] := by
  induction said with
  | nil => rfl
  | cons first said ih => rw [List.map_cons, tagsOf_inr, ih]

@[simp] theorem contentsOf_map_inr (said : List (String × Content)) :
    contentsOf (said.map .inr) = said := by
  induction said with
  | nil => rfl
  | cons first said ih => rw [List.map_cons, contentsOf_inr, ih]

/-- Contents that go with the first fields make the same interface by position and by name. -/
theorem interfaceOf_positional_iff {t : Transport} {said : List (String × Content)}
    (names : said.map Prod.fst <+: interfaceFields t) {i : Interface} :
    interfaceOf t (.positional (said.map Prod.snd)) = .ok i ↔
      ∃ f, readFields t (.named said) = .ok f ∧ assemble t f = some i := by
  have fits : noExcess (interfaceFields t).length (.positional (said.map Prod.snd)) = .ok () := by
    have short := names.length_le
    rw [List.length_map] at short
    simp [noExcess, short]
  have bound : (said.map fun x => (Except.ok x.1 : Except Cause String).toOption) <+:
      (interfaceFields t).map some := by
    have named := names.map some
    rwa [List.map_map] at named
  have alike : (readFields t (.positional (said.map Prod.snd))).toOption =
      (readFields t (.named said)).toOption :=
    readItems_eq_readMembers bound (fun _ known => known) (nodup_interfaceFields t)
      (fun _ _ => List.not_mem_nil) _
  rw [← toOption_eq_some_iff, toOption_interfaceOf t fits, alike]
  simp only [Option.bind_eq_some_iff, toOption_eq_some_iff]

/-- An interface is read alike in both forms. -/
theorem readInterface_forms {t : Transport} {vs : List Value} {members : List (Key × Value)}
    (binds : Binds (tagField :: interfaceFields t) vs members) (tag : TagFirst t vs)
    (root root' mark mark' : Mark) :
    (readInterface root (.array mark vs)).toOption =
      (readInterface root' (.object mark' members)).toOption := by
  cases binds with
  | nil => rfl
  | @cons key _ _ first vs members content binds =>
      refine toOption_eq_of_iff fun i => ?_
      rw [← toOption_eq_some_iff, toOption_readInterface_array, readInterface_object_iff]
      simp only [Option.bind_eq_some_iff, toOption_eq_some_iff]
      -- An array binds the contents to the fields of the tag it has, an object to their names.
      constructor
      · rintro ⟨t', tagged, items, contents, made⟩
        obtain rfl := tag first rfl t' tagged
        obtain ⟨said, rfl, yields⟩ := binds.yields (tagField_not_mem t') contents
        obtain ⟨said', same, names, -⟩ := binds.said (tagField_not_mem t') yields
        obtain rfl := List.map_injective_iff.2 (fun _ _ => Sum.inr.inj) same
        obtain ⟨f, read, made⟩ := (interfaceOf_positional_iff names).1 made
        exact ⟨.inl t' :: said.map .inr, t', f, .cons (entry_eq_inl_iff.2 ⟨content, tagged⟩) yields,
          by simp, by simpa using read, made⟩
      · rintro ⟨found, t', f, yields, tags, read, made⟩
        obtain ⟨x, found, rfl, one, yields⟩ := yields_cons_iff.1 yields
        obtain ⟨said, rfl, names, contents⟩ := binds.said (tagField_not_mem t) yields
        cases x with
        | inr said =>
            obtain ⟨named, other, -⟩ := entry_eq_inr_iff.1 one
            exact absurd (Option.some.inj (named.symm.trans content)) other
        | inl t'' =>
            obtain ⟨-, tagged⟩ := entry_eq_inl_iff.1 one
            obtain rfl := tag first rfl t'' tagged
            rw [tagsOf_inl, tagsOf_map_inr, List.singleton_inj] at tags
            rw [contentsOf_inl, contentsOf_map_inr, ← tags] at read
            rw [← tags] at made
            exact ⟨t'', tagged, said.map Prod.snd, contents,
              (interfaceOf_positional_iff names).2 ⟨f, read, made⟩⟩

/-! ## Sections and documents -/

/-- The sections that hold a single value, and their fields. -/
def singleFields : List (String × String) :=
  [("rate-limit", "min-backoff"), ("pool", "capacity"), ("strategy", "packet-logger"),
    ("log", "level")]

/-- Values that are the same but for their places. -/
def Alike (v w : Value) : Prop :=
  v.bare = w.bare

/-- The values of a section of this name are the same, but one may be written as an array of the
values that the other binds to fields. -/
inductive SameSection (name : String) : Value → Value → Prop
  | alike {v w : Value} (places : Alike v w) : SameSection name v w
  | single {field : String} {vs ws : List Value} {v w : Value}
    (known : (name, field) ∈ singleFields) (places : List.Forall₂ Alike vs ws)
    (first : Writes [field] vs v) (second : Writes [field] ws w) : SameSection name v w
  | interface {t : Transport} {vs ws : List Value} {v w : Value}
    (known : name = "rtp" ∨ name = "rtcp") (tag : TagFirst t vs)
    (places : List.Forall₂ Alike vs ws) (first : Writes (tagField :: interfaceFields t) vs v)
    (second : Writes (tagField :: interfaceFields t) ws w) : SameSection name v w

/-- Members of the same names, and sections that are the same in either form. -/
def SameMembers : List (Key × Value) → List (Key × Value) → Prop :=
  List.Forall₂ fun member other => other.1.content = member.1.content ∧
    ∀ name, member.1.content = some name → SameSection name member.2 other.2

theorem TagFirst.alike {t : Transport} {vs ws : List Value} (tag : TagFirst t vs)
    (places : List.Forall₂ Alike vs ws) : TagFirst t ws := by
  cases places with
  | nil => exact tag
  | @cons v w vs ws here _ =>
      rintro _ ⟨⟩ other tagged
      refine tag v rfl other ?_
      rw [← toOption_eq_some_iff] at tagged ⊢
      rw [← tagged, ← readTag_bare v, here, readTag_bare]

theorem bare_array {vs ws : List Value} (places : List.Forall₂ Alike vs ws) (mark mark' : Mark) :
    Alike (.array mark vs) (.array mark' ws) := by
  rw [Alike, Value.bare, Value.bare, bareItems_eq_map, bareItems_eq_map]
  exact congrArg _ (by induction places with
    | nil => rfl
    | cons here _ ih => rw [List.map_cons, List.map_cons, here, ih])

theorem sectionChange_alike {name : String} (known : name ∈ sections) {v w : Value}
    (places : Alike v w) (root : Mark) :
    (sectionChange root name v).toOption = (sectionChange root name w).toOption := by
  rw [← sectionChange_bare known root root v, places, sectionChange_bare known]

theorem toOption_map_congr {ε α β : Type} {x y : Except ε α} (same : x.toOption = y.toOption)
    (f : α → β) : (x.map f).toOption = (y.map f).toOption := by
  rw [toOption_map, toOption_map, same]

theorem sectionChange_single {name field : String} (known : (name, field) ∈ singleFields)
    {vs : List Value} {members : List (Key × Value)} (binds : Binds [field] vs members)
    (root mark mark' : Mark) :
    (sectionChange root name (.array mark vs)).toOption =
      (sectionChange root name (.object mark' members)).toOption := by
  simp only [singleFields, List.mem_cons, Prod.mk.injEq, List.not_mem_nil, or_false] at known
  rcases known with ⟨rfl, rfl⟩ | ⟨rfl, rfl⟩ | ⟨rfl, rfl⟩ | ⟨rfl, rfl⟩ <;>
    exact toOption_map_congr (readSingle_forms binds mark mark') _

theorem sectionChange_interface {name : String} (known : name = "rtp" ∨ name = "rtcp")
    {t : Transport} {vs : List Value} {members : List (Key × Value)} (tag : TagFirst t vs)
    (binds : Binds (tagField :: interfaceFields t) vs members) (root mark mark' : Mark) :
    (sectionChange root name (.array mark vs)).toOption =
      (sectionChange root name (.object mark' members)).toOption := by
  rcases known with rfl | rfl <;>
    exact toOption_map_congr (readInterface_forms binds tag root root mark mark') _

/-- Sections that are the same make the same change. -/
theorem sectionChange_same {name : String} (known : name ∈ sections) {v w : Value}
    (same : SameSection name v w) (root : Mark) :
    (sectionChange root name v).toOption = (sectionChange root name w).toOption := by
  have array {fields : List String} {vs : List Value} {v : Value}
      (forms : ∀ members, Binds fields vs members → ∀ mark mark',
        (sectionChange root name (.array mark vs)).toOption =
          (sectionChange root name (.object mark' members)).toOption)
      (writes : Writes fields vs v) : (sectionChange root name v).toOption =
        (sectionChange root name (.array .start vs)).toOption := by
    cases writes with
    | array mark =>
        exact sectionChange_alike known (bare_array (List.forall₂_same.2 fun _ _ => rfl) _ _) root
    | object mark binds => exact (forms _ binds .start mark).symm
  have arrays {vs ws : List Value} (places : List.Forall₂ Alike vs ws) :=
    sectionChange_alike known (bare_array places .start .start) root
  cases same with
  | alike places => exact sectionChange_alike known places root
  | single field places first second =>
      rw [array (fun _ binds => sectionChange_single field binds root) first, arrays places,
        array (fun _ binds => sectionChange_single field binds root) second]
  | interface stream tag places first second =>
      rw [array (fun _ binds => sectionChange_interface stream tag binds root) first, arrays places,
        array (fun _ binds => sectionChange_interface stream (tag.alike places) binds root) second]

theorem mem_sections_of_single {name field : String} (known : (name, field) ∈ singleFields) :
    name ∈ sections := by
  simp only [singleFields, List.mem_cons, Prod.mk.injEq, List.not_mem_nil, or_false] at known
  rcases known with ⟨rfl, rfl⟩ | ⟨rfl, rfl⟩ | ⟨rfl, rfl⟩ | ⟨rfl, rfl⟩ <;> decide

theorem SameSection.alike_of_not_mem {name : String} (unknown : name ∉ sections) {v w : Value}
    (same : SameSection name v w) : Alike v w := by
  cases same with
  | alike places => exact places
  | single known => exact absurd (mem_sections_of_single known) unknown
  | interface known =>
      refine absurd ?_ unknown
      rcases known with rfl | rfl <;> decide

/-- Sections may be written in either form. -/
theorem described_sameMembers {members others : List (Key × Value)}
    (same : SameMembers members others) (mark mark' : Mark) :
    described (.object mark members) = described (.object mark' others) := by
  refine described_congr (same.imp fun member other both => ⟨both.1, fun name named => ?_⟩)
    mark mark'
  have same := both.2 name named
  refine ⟨fun known => sectionChange_same known same .start, fun unknown => ?_⟩
  rw [← content_bare member.2, same.alike_of_not_mem unknown, content_bare]

/-- A document may be written in either form. -/
theorem Writes.exists_object {vs : List Value} {v : Value} (writes : Writes sections vs v) :
    ∃ mark members, Binds sections vs members ∧ described v = described (.object mark members) := by
  cases writes with
  | object mark binds => exact ⟨mark, _, binds, rfl⟩
  | array mark fits =>
      obtain ⟨members, binds⟩ := exists_binds fits
      refine ⟨mark, members, binds, ?_⟩
      rw [described_eq, described_eq]
      exact readRecord_forms (by decide) binds mark mark _

/-- **The two forms of a configuration describe the same.**  Sections may be written in either
form in any document that is an object.  A document that gives values to the first sections may
be written in either form too, and so may each of the sections in it.  An interface starts with
its tag, and has the order of the fields that its transport declares. -/
theorem forms_describe_the_same :
    (∀ members others mark mark', SameMembers members others →
      described (.object mark members) = described (.object mark' others)) ∧
    ∀ vs ws v w, List.Forall₂ (fun binding w => SameSection binding.1 binding.2 w)
      (sections.zip vs) ws → Writes sections vs v → Writes sections ws w →
      described v = described w := by
  refine ⟨fun members others mark mark' same => described_sameMembers same mark mark', ?_⟩
  intro vs ws v w same first second
  -- Both documents become objects, whose sections may differ in their forms only.
  obtain ⟨mark, members, binds, firstRead⟩ := first.exists_object
  obtain ⟨mark', others, alsoBinds, secondRead⟩ := second.exists_object
  rw [firstRead, secondRead]
  exact described_sameMembers (binds.pairs alsoBinds same) mark mark'

theorem forms_describe_the_same_of_sample :
    described (.object .start [sampleMember "pool" (.array .start [.number .start ['7']])]) =
      some { poolCapacity := 7 } ∧
    described (.array .start [.array .start
      [.string .start (some "udp"), .string .start (some "1.2.3.4:5")]]) =
      some { rtp := .udp (.v4 ⟨1, 2, 3, 4⟩ 5) none 1500 none } := by
  constructor
  · have bound : Writes ["capacity"] [.number .start ['7']] (.object .start [sampleCapacity]) :=
      .object .start (.cons rfl .nil)
    have same : SameMembers [sampleMember "pool" (.object .start [sampleCapacity])]
        [sampleMember "pool" (.array .start [.number .start ['7']])] := by
      refine .cons ⟨rfl, ?_⟩ .nil
      rintro _ ⟨⟩
      exact .single (by decide) (List.forall₂_same.2 fun _ _ => rfl) bound
        (.array .start (by decide))
    rw [← forms_describe_the_same.1 _ _ .start .start same]
    decide +kernel
  · have tag : TagFirst .udp
        [.string .start (some "udp"), .string .start (some "1.2.3.4:5")] := by
      rintro _ ⟨⟩ other tagged
      exact (Except.ok.inj tagged).symm
    have bound : Writes (tagField :: interfaceFields .udp)
        [.string .start (some "udp"), .string .start (some "1.2.3.4:5")]
        (.object .start (sampleDatagrams.take 2)) :=
      .object .start (.cons rfl (.cons rfl .nil))
    have document : Writes sections [.object .start (sampleDatagrams.take 2)]
        (.object .start [sampleMember "rtp" (.object .start (sampleDatagrams.take 2))]) :=
      .object .start (.cons rfl .nil)
    rw [← forms_describe_the_same.2 _ _ _ _ (.cons (.interface (.inl rfl) tag
      (List.forall₂_same.2 fun _ _ => rfl) bound (.array .start (by decide))) .nil) document
      (.array .start (by decide))]
    decide +kernel

end MediaTransport.Config
