/-
# MediaTransport.Proofs.Config.Records -- records as settings

A reader of records goes through the members of an object one by one, but what becomes of a
member does not depend on the others: it sets a field, it is passed over, or the object is
refused because of it (`setting`).  An object is a record if none of its members is refused and
no field is set twice, and then the record is the one that the settings make, one after the
other (`readMembers_eq_ok_iff`).

A setting is a change of the record.  Where changes of different fields commute
(`Independent`), the order of the members makes no difference (`readMembers_perm`).  What is
left when some members are left out makes the record with their changes undone
(`readMembers_thinned`), and an array of values is read as the object that binds the first
fields to them (`readItems_eq_readMembers`).
-/
import Mathlib.Data.List.Forall2
import Mathlib.Data.List.Nodup
import Mathlib.Data.List.Perm.Basic
import Mathlib.Data.List.ReduceOption
import MediaTransport.Config.Reader
import MediaTransport.Proofs.Json5.Places

namespace MediaTransport.Config

set_option autoImplicit false

/-! ## Items by themselves -/

section Items

variable {β γ δ : Type} {f : β → Option γ} {g : δ → Option γ}

/-- Items come to these outcomes, each by itself. -/
def Yields (f : β → Option γ) (items : List β) (found : List γ) : Prop :=
  List.Forall₂ (fun item x => f item = some x) items found

theorem yields_nil_iff {found : List γ} : Yields f [] found ↔ found = [] :=
  List.forall₂_nil_left_iff

theorem yields_cons_iff {item : β} {rest : List β} {found : List γ} :
    Yields f (item :: rest) found ↔
      ∃ first others, found = first :: others ∧ f item = some first ∧ Yields f rest others := by
  simp only [Yields, List.forall₂_cons_left_iff]
  exact ⟨fun ⟨first, others, here, there, split⟩ => ⟨first, others, split, here, there⟩,
    fun ⟨first, others, split, here, there⟩ => ⟨first, others, here, there, split⟩⟩

theorem Yields.perm {items others : List β} {found : List γ} (yields : Yields f items found)
    (same : items.Perm others) : ∃ moved, Yields f others moved ∧ found.Perm moved := by
  obtain ⟨moved, yields, same⟩ := List.perm_comp_forall₂ same.symm yields
  exact ⟨moved, yields, same.symm⟩

theorem yields_congr {items : List β} {others : List δ}
    (alike : List.Forall₂ (fun item other => f item = g other) items others) (found : List γ) :
    Yields f items found ↔ Yields g others found := by
  induction alike generalizing found with
  | nil => rw [yields_nil_iff, yields_nil_iff]
  | cons same _ ih => simp only [yields_cons_iff, same, ih]

theorem Yields.exists_of_mem {items : List β} {found : List γ} (yields : Yields f items found)
    {x : γ} (here : x ∈ found) : ∃ item ∈ items, f item = some x := by
  induction yields with
  | nil => simp at here
  | @cons item first rest others one _ ih =>
      rcases List.mem_cons.1 here with rfl | later
      · exact ⟨item, List.mem_cons_self, one⟩
      · obtain ⟨other, there, one⟩ := ih later
        exact ⟨other, List.mem_cons_of_mem item there, one⟩

theorem Yields.mem {items : List β} {found : List γ} (yields : Yields f items found)
    {item : β} (here : item ∈ items) : ∃ x ∈ found, f item = some x := by
  induction yields with
  | nil => simp at here
  | @cons item first rest others one _ ih =>
      rcases List.mem_cons.1 here with rfl | later
      · exact ⟨first, List.mem_cons_self, one⟩
      · obtain ⟨x, there, one⟩ := ih later
        exact ⟨x, List.mem_cons_of_mem first there, one⟩

/-- What is left of a list when some items are left out and the others may change. -/
inductive Thinned (drops : β → Prop) (keeps : β → β → Prop) : List β → List β → Prop
  | nil : Thinned drops keeps [] []
  | drop {item : β} {items left : List β} (dropped : drops item)
    (others : Thinned drops keeps items left) : Thinned drops keeps (item :: items) left
  | keep {item kept : β} {items left : List β} (changed : keeps item kept)
    (others : Thinned drops keeps items left) :
    Thinned drops keeps (item :: items) (kept :: left)

theorem Thinned.imp {drops drops' : β → Prop} {keeps keeps' : β → β → Prop} {items left : List β}
    (thinned : Thinned drops keeps items left) (drop : ∀ item, drops item → drops' item)
    (keep : ∀ item kept, keeps item kept → keeps' item kept) :
    Thinned drops' keeps' items left := by
  induction thinned with
  | nil => exact .nil
  | drop dropped _ ih => exact .drop (drop _ dropped) ih
  | keep changed _ ih => exact .keep (keep _ _ changed) ih

/-- What is left of items comes to what is left of their outcomes. -/
theorem Yields.thinned {f g : β → Option γ} {drops : β → Prop} {keeps : β → β → Prop}
    {loses : γ → Prop} {mirrors : γ → γ → Prop} {items left : List β} {found : List γ}
    (yields : Yields f items found) (thinned : Thinned drops keeps items left)
    (lost : ∀ item x, drops item → f item = some x → loses x)
    (mirrored : ∀ item kept x, keeps item kept → f item = some x →
      ∃ y, g kept = some y ∧ mirrors x y) :
    ∃ fewer, Yields g left fewer ∧ Thinned loses mirrors found fewer := by
  induction thinned generalizing found with
  | nil =>
      obtain rfl := yields_nil_iff.1 yields
      exact ⟨[], .nil, .nil⟩
  | drop dropped _ ih =>
      obtain ⟨first, others, rfl, one, yields⟩ := yields_cons_iff.1 yields
      obtain ⟨fewer, yields, thinned⟩ := ih yields
      exact ⟨fewer, yields, .drop (lost _ _ dropped one) thinned⟩
  | keep changed _ ih =>
      obtain ⟨first, others, rfl, one, yields⟩ := yields_cons_iff.1 yields
      obtain ⟨fewer, yields, thinned⟩ := ih yields
      obtain ⟨kept, another, same⟩ := mirrored _ _ _ changed one
      exact ⟨kept :: fewer, .cons another yields, .keep same thinned⟩

end Items

/-! ## Settings -/

section Settings

variable {σ : Type}

/-- The record that settings make. -/
def made (found : List (Option (String × (σ → σ)))) (record : σ) : σ :=
  found.reduceOption.foldl (fun record x => x.2 record) record

/-- The fields that are set. -/
def fieldsSet (found : List (Option (String × (σ → σ)))) : List String :=
  found.reduceOption.map Prod.fst

/-- No field is set twice, and none of some fields at all. -/
def Once (seen : List String) (found : List (Option (String × (σ → σ)))) : Prop :=
  (fieldsSet found).Nodup ∧ ∀ field ∈ fieldsSet found, field ∉ seen

variable {seen : List String} {field : String} {set : σ → σ}
  {found : List (Option (String × (σ → σ)))}

@[simp] theorem made_none (record : σ) : made (none :: found) record = made found record := rfl

@[simp] theorem made_some (record : σ) :
    made (some (field, set) :: found) record = made found (set record) := rfl

theorem made_append (found others : List (Option (String × (σ → σ)))) (record : σ) :
    made (found ++ others) record = made others (made found record) := by
  rw [made, made, made, List.reduceOption_append, List.foldl_append]

@[simp] theorem fieldsSet_none : fieldsSet (none :: found) = fieldsSet found := rfl

@[simp] theorem fieldsSet_some :
    fieldsSet (some (field, set) :: found) = field :: fieldsSet found := rfl

@[simp] theorem once_none_iff : Once seen (none :: found) ↔ Once seen found := Iff.rfl

@[simp] theorem once_some_iff :
    Once seen (some (field, set) :: found) ↔ field ∉ seen ∧ Once (field :: seen) found := by
  rw [Once, fieldsSet_some, List.nodup_cons, List.forall_mem_cons]
  simp only [Once, List.mem_cons, not_or]
  constructor
  · rintro ⟨⟨once, distinct⟩, fresh, others⟩
    exact ⟨fresh, distinct, fun other here => ⟨fun same => once (same ▸ here), others other here⟩⟩
  · rintro ⟨fresh, distinct, others⟩
    exact ⟨⟨fun here => (others field here).1 rfl, distinct⟩, fresh,
      fun other here => (others other here).2⟩

theorem Once.sublist {fewer : List (Option (String × (σ → σ)))} (once : Once seen found)
    (left : (fieldsSet fewer).Sublist (fieldsSet found)) : Once seen fewer :=
  ⟨once.1.sublist left, fun field here => once.2 field (left.subset here)⟩

/-- A setting that is lost when a record is restored. -/
def Vanishes (restore : σ → σ) : Option (String × (σ → σ)) → Prop
  | none => True
  | some (_, set) => ∀ record, restore (set record) = restore record

/-- A setting of a record, and what it is on the restored record. -/
inductive Mirrors (restore : σ → σ) :
    Option (String × (σ → σ)) → Option (String × (σ → σ)) → Prop
  | passed : Mirrors restore none none
  | set {field : String} {set other : σ → σ}
    (restored : ∀ record, restore (set record) = other (restore record)) :
    Mirrors restore (some (field, set)) (some (field, other))

/-- What is left of settings makes the restored record. -/
theorem Thinned.made {restore : σ → σ} {fewer : List (Option (String × (σ → σ)))}
    (thinned : Thinned (Vanishes restore) (Mirrors restore) found fewer) :
    (fieldsSet fewer).Sublist (fieldsSet found) ∧
      ∀ record, restore (made found record) = Config.made fewer (restore record) := by
  induction thinned with
  | nil => exact ⟨.slnil, fun record => rfl⟩
  | @drop x found fewer lost _ ih =>
      obtain ⟨names, restored⟩ := ih
      cases x with
      | none => exact ⟨names, restored⟩
      | some x =>
          refine ⟨names.cons x.1, fun record => ?_⟩
          rw [made_some, restored, lost]
  | keep mirrored _ ih =>
      obtain ⟨names, restored⟩ := ih
      cases mirrored with
      | passed => exact ⟨names, restored⟩
      | set mirrored =>
          refine ⟨names.cons_cons _, fun record => ?_⟩
          rw [made_some, made_some, restored, mirrored]

end Settings

/-! ## Members of objects -/

section Members

variable {ε κ α σ : Type}

/-- What a member comes to by itself: a change of a field, or nothing if it is passed over. -/
def setting (name : κ → Except ε String) (pass : α → Except ε Unit) (fields : List String)
    (change : String → α → Except ε (σ → σ)) (member : κ × α) :
    Option (Option (String × (σ → σ))) :=
  (name member.1).toOption.bind fun field =>
    if field ∈ fields then (change field member.2).toOption.map fun set => some (field, set)
    else (pass member.2).toOption.map fun _ => none

/-- The reader of one member that makes a change. -/
def reading (change : String → α → Except ε (σ → σ)) (record : σ) (field : String)
    (value : α) : Except ε σ :=
  (change field value).map fun set => set record

/-- Changes of different fields commute. -/
def Independent (fields : List String) (change : String → α → Except ε (σ → σ)) : Prop :=
  ∀ f ∈ fields, ∀ g ∈ fields, f ≠ g → ∀ (a b : α) (set other : σ → σ),
    change f a = .ok set → change g b = .ok other →
      ∀ record, set (other record) = other (set record)

variable {name name' : κ → Except ε String} {duplicate duplicate' : String → ε}
  {pass : α → Except ε Unit} {fields : List String}
  {change change' : String → α → Except ε (σ → σ)}
  {members others : List (κ × α)} {found : List (Option (String × (σ → σ)))}

/-- A member comes to the setting of its field, or is passed over because it has no field. -/
theorem setting_eq_some_iff {member : κ × α} {x : Option (String × (σ → σ))} :
    setting name pass fields change member = some x ↔
      ∃ field, name member.1 = .ok field ∧
        ((field ∈ fields ∧ ∃ set, change field member.2 = .ok set ∧ x = some (field, set)) ∨
          (field ∉ fields ∧ pass member.2 = .ok () ∧ x = none)) := by
  simp only [setting, Option.bind_eq_some_iff, toOption_eq_some_iff]
  refine exists_congr fun field => and_congr_right fun _ => ?_
  by_cases known : field ∈ fields
  · simp only [known, if_true, Option.map_eq_some_iff, toOption_eq_some_iff, true_and,
      not_true_eq_false, false_and, or_false, @eq_comm _ x]
  · simp only [known, if_false, Option.map_eq_some_iff, toOption_eq_some_iff, false_and, false_or,
      not_false_eq_true, true_and, @eq_comm _ x]
    exact ⟨fun ⟨_, passed, same⟩ => ⟨passed, same⟩, fun ⟨passed, same⟩ => ⟨(), passed, same⟩⟩

/-- A record is read if all its members settle and no field is set twice. -/
theorem readMembers_eq_ok_iff {seen : List String} {record result : σ} :
    readMembers name duplicate pass fields (reading change) seen members record = .ok result ↔
      ∃ found, Yields (setting name pass fields change) members found ∧ Once seen found ∧
        made found record = result := by
  -- A member hands its record on to the others, and its field as one that is seen.
  induction members generalizing seen record with
  | nil => simp [readMembers, yields_nil_iff, Once, fieldsSet, made]
  | cons member rest ih =>
      obtain ⟨key, value⟩ := member
      simp only [yields_cons_iff, setting, readMembers]
      cases named : name key with
      | error e => simp [bind, Except.bind]
      | ok field =>
          by_cases known : field ∈ fields
          · by_cases again : field ∈ seen
            · cases change field value <;> simp [bind, Except.bind, known, again]
            · cases changed : change field value with
              | error e => simp [bind, Except.bind, known, again, reading, changed, Except.map]
              | ok set => simp [bind, Except.bind, known, again, reading, changed, Except.map, ih]
          · cases pass value with
            | error e => simp [bind, Except.bind, known]
            | ok _ => simp [bind, Except.bind, known, ih]

/-- Members that come to the same settings make the same record. -/
theorem readMembers_congr (alike : List.Forall₂ (fun member other =>
      setting name pass fields change member = setting name' pass fields change' other)
      members others) (record : σ) :
    (readMembers name duplicate pass fields (reading change) [] members record).toOption =
      (readMembers name' duplicate' pass fields (reading change') [] others record).toOption := by
  refine toOption_eq_of_iff fun result => ?_
  simp only [readMembers_eq_ok_iff, yields_congr alike]

theorem made_perm (independent : Independent fields change)
    (settled : Yields (setting name pass fields change) members found)
    (distinct : (fieldsSet found).Nodup) {moved : List (Option (String × (σ → σ)))}
    (same : found.Perm moved) (record : σ) : made found record = made moved record := by
  have changes {x : String × (σ → σ)} (here : x ∈ found.reduceOption) :
      x.1 ∈ fields ∧ ∃ a, change x.1 a = .ok x.2 := by
    obtain ⟨member, -, one⟩ := settled.exists_of_mem (List.reduceOption_mem_iff.1 here)
    obtain ⟨field, -, ⟨known, set, changed, same⟩ | ⟨-, -, impossible⟩⟩ := setting_eq_some_iff.1 one
    · obtain rfl := Option.some.inj same
      exact ⟨known, member.2, changed⟩
    · simp at impossible
  -- Two settings of one field are the same setting, because no field is set twice.
  refine List.Perm.foldl_eq' (same.filterMap id) (fun x here y there record => ?_) record
  by_cases equal : x.1 = y.1
  · rw [List.inj_on_of_nodup_map distinct here there equal]
  · obtain ⟨known, a, changed⟩ := changes here
    obtain ⟨alsoKnown, b, alsoChanged⟩ := changes there
    exact (independent _ known _ alsoKnown equal a b _ _ changed alsoChanged record).symm

/-- A record has every field that is set, where a change that is made again does nothing. -/
theorem readMembers_sets (independent : Independent fields change)
    (replaces : ∀ f ∈ fields, ∀ (a : α) (set : σ → σ), change f a = .ok set →
      ∀ record, set (set record) = set record)
    {record result : σ}
    (read : readMembers name duplicate pass fields (reading change) [] members record =
      .ok result) {member : κ × α} (here : member ∈ members) {field : String}
    (named : name member.1 = .ok field) (known : field ∈ fields) :
    ∃ set, change field member.2 = .ok set ∧ set result = result := by
  obtain ⟨found, settled, once, rfl⟩ := readMembers_eq_ok_iff.1 read
  obtain ⟨x, there, one⟩ := settled.mem here
  obtain ⟨other, alsoNamed, settles⟩ := setting_eq_some_iff.1 one
  obtain rfl := Except.ok.inj (named.symm.trans alsoNamed)
  obtain ⟨-, set, changed, rfl⟩ | ⟨unknown, -, -⟩ := settles
  · refine ⟨set, changed, ?_⟩
    obtain ⟨front, back, rfl⟩ := List.append_of_mem there
    -- The change may as well be the last one.
    have last : (front ++ some (field, set) :: back).Perm
        (front ++ back ++ [some (field, set)]) :=
      List.perm_middle.trans (List.perm_append_singleton _ _).symm
    rw [made_perm independent settled once.1 last, made_append]
    exact replaces field known member.2 set changed _
  · exact absurd known unknown

/-- The order of the members makes no difference. -/
theorem readMembers_perm (independent : Independent fields change) (same : members.Perm others)
    (record : σ) :
    (readMembers name duplicate pass fields (reading change) [] members record).toOption =
      (readMembers name duplicate' pass fields (reading change) [] others record).toOption := by
  have moved {duplicate duplicate' : String → ε} {members others : List (κ × α)} {result : σ}
      (same : members.Perm others)
      (read : readMembers name duplicate pass fields (reading change) [] members record =
        .ok result) :
      readMembers name duplicate' pass fields (reading change) [] others record = .ok result := by
    obtain ⟨found, settled, once, rfl⟩ := readMembers_eq_ok_iff.1 read
    obtain ⟨moved, alsoSettled, same⟩ := settled.perm same
    refine readMembers_eq_ok_iff.2 ⟨moved, alsoSettled, ?_,
      (made_perm independent settled once.1 same record).symm⟩
    exact ⟨((same.filterMap id).map Prod.fst).nodup_iff.1 once.1, by simp⟩
  exact toOption_eq_of_iff fun result => ⟨moved same, moved same.symm⟩

/-- What is left of the members makes the restored record. -/
theorem readMembers_thinned (restore : σ → σ) {left : List (κ × α)}
    (thinned : Thinned
      (fun member => ∀ x, setting name pass fields change member = some x → Vanishes restore x)
      (fun member kept => ∀ x, setting name pass fields change member = some x →
        ∃ y, setting name pass fields change' kept = some y ∧ Mirrors restore x y)
      members left) {record result : σ}
    (read : readMembers name duplicate pass fields (reading change) [] members record =
      .ok result) :
    readMembers name duplicate' pass fields (reading change') [] left (restore record) =
      .ok (restore result) := by
  obtain ⟨found, settled, once, rfl⟩ := readMembers_eq_ok_iff.1 read
  obtain ⟨fewer, settled, thinned⟩ := settled.thinned thinned
    (fun _ x dropped one => dropped x one) (fun _ _ x changed one => changed x one)
  obtain ⟨names, restored⟩ := thinned.made
  exact readMembers_eq_ok_iff.2 ⟨fewer, settled, once.sublist names, (restored record).symm⟩

theorem fieldsSet_eq (settled : Yields (setting name pass fields change) members found) :
    fieldsSet found =
      (members.filterMap fun member => (name member.1).toOption).filter (· ∈ fields) := by
  induction settled with
  | nil => rfl
  | @cons member first rest others one _ ih =>
      obtain ⟨field, named, one⟩ := setting_eq_some_iff.1 one
      have names : (member :: rest).filterMap (fun member => (name member.1).toOption) =
          field :: rest.filterMap fun member => (name member.1).toOption :=
        List.filterMap_cons_some (toOption_eq_some_iff.2 named)
      obtain ⟨known, set, -, rfl⟩ | ⟨unknown, -, rfl⟩ := one
      · rw [fieldsSet_some, names, List.filter_cons_of_pos (by simpa using known), ih]
      · rw [fieldsSet_none, names, List.filter_cons_of_neg (by simpa using unknown), ih]

/-- A field that two members set is refused. -/
theorem readMembers_repeated {field : String} (known : field ∈ fields)
    (twice : 2 ≤ (members.filterMap fun member => (name member.1).toOption).count field)
    (record : σ) :
    (readMembers name duplicate pass fields (reading change) [] members record).toOption =
      none := by
  refine toOption_eq_none_iff.2 fun result read => ?_
  obtain ⟨found, settled, once, -⟩ := readMembers_eq_ok_iff.1 read
  have single := List.nodup_iff_count_le_one.1 once.1 field
  rw [fieldsSet_eq settled, List.count_filter (by simpa using known)] at single
  omega

/-- An array of values is read as the object that binds the first fields to them. -/
theorem readItems_eq_readMembers {order seen : List String}
    (bound : (members.map fun member => (name member.1).toOption) <+: order.map some)
    (known : ∀ field ∈ order, field ∈ fields) (distinct : order.Nodup)
    (fresh : ∀ field ∈ order, field ∉ seen) (record : σ) :
    (readItems (reading change) order (members.map Prod.snd) record).toOption =
      (readMembers name duplicate pass fields (reading change) seen members record).toOption := by
  induction members generalizing order seen record with
  | nil => cases order <;> rfl
  | cons member rest ih =>
      obtain ⟨key, value⟩ := member
      cases order with
      | nil => simp at bound
      | cons field order =>
          rw [List.map_cons, List.map_cons, List.cons_prefix_cons] at bound
          obtain ⟨named, bound⟩ := bound
          obtain ⟨once, distinct⟩ := List.nodup_cons.1 distinct
          have here := known field List.mem_cons_self
          have new := fresh field List.mem_cons_self
          simp only [List.map_cons, readItems, readMembers, toOption_bind, named, Option.bind_some,
            List.contains_eq_mem, here, new, decide_true, decide_false, if_true, if_false,
            Bool.false_eq_true]
          congr 1
          funext record
          refine ih bound (fun other there => known other (List.mem_cons_of_mem field there))
            distinct (fun other there => ?_) record
          rw [List.mem_cons, not_or]
          exact ⟨fun same => once (same ▸ there), fresh other (List.mem_cons_of_mem field there)⟩

/-! ## What every field keeps -/

variable {read : σ → String → α → Except ε σ} (keeps : σ → Prop)

/-- What holds of a record, and goes on to hold with every field that is read, holds of the
record that the members make. -/
theorem readMembers_keeps {seen : List String} {record result : σ}
    (each : ∀ member ∈ members, ∀ record field next, keeps record →
      read record field member.2 = .ok next → keeps next) (holds : keeps record)
    (answer : readMembers name duplicate pass fields read seen members record = .ok result) :
    keeps result := by
  induction members generalizing seen record with
  | nil => exact Except.ok.inj answer ▸ holds
  | cons member rest ih =>
      obtain ⟨key, value⟩ := member
      obtain ⟨here, later⟩ := List.forall_mem_cons.1 each
      rw [readMembers] at answer
      cases named : name key with
      | error e => simp [named, bind, Except.bind] at answer
      | ok field =>
          simp only [named, bind, Except.bind] at answer
          split at answer
          · split at answer
            · cases answer
            · cases made : read record field value with
              | error e => simp [made] at answer
              | ok next =>
                  simp only [made] at answer
                  exact ih later (here record field next holds made) answer
          · cases passed : pass value with
            | error e => simp [passed] at answer
            | ok _ =>
                simp only [passed] at answer
                exact ih later holds answer

theorem readItems_keeps {items : List α} {order : List String} {record result : σ}
    (each : ∀ item ∈ items, ∀ record field next, keeps record →
      read record field item = .ok next → keeps next) (holds : keeps record)
    (answer : readItems read order items record = .ok result) : keeps result := by
  induction items generalizing order record with
  | nil => cases order <;> exact Except.ok.inj answer ▸ holds
  | cons item rest ih =>
      obtain ⟨here, later⟩ := List.forall_mem_cons.1 each
      cases order with
      | nil => exact Except.ok.inj answer ▸ holds
      | cons field order =>
          rw [readItems] at answer
          cases made : read record field item with
          | error e => simp [made, bind, Except.bind] at answer
          | ok next =>
              simp only [made, bind, Except.bind] at answer
              exact ih later (here record field next holds made) answer

end Members

end MediaTransport.Config
