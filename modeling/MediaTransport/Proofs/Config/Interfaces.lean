/-
# MediaTransport.Proofs.Config.Interfaces -- interfaces as tagged records

An interface is read in two goes.  First its members are taken apart: the one named
`transport` is the tag, and of the others the contents are kept (`entry`, `untag_eq_ok_iff`).
Then the contents are read as a record whose fields depend on the tag (`readFields`).  What a
member comes to in the first go depends on that member alone, and what the contents come to in
the second on the contents alone, so that an object is an interface exactly if it has one tag
and its contents make the fields (`readInterface_object_iff`).

A member that is left out of the object is left out of the contents, where its field has the
default then (`readInterface_leaves`).
-/
import MediaTransport.Proofs.Config.Records

namespace MediaTransport.Config

set_option autoImplicit false

open Json5

/-! ## Answers without their errors -/

@[simp] theorem toOption_flawless {α : Type} (x : Except Flawed α) :
    (flawless x).toOption = x.toOption := by
  cases x <;> rfl

@[simp] theorem toOption_reportedAt {α : Type} (mark : Mark) (x : Except Cause α) :
    (reportedAt mark x).toOption = x.toOption := by
  cases x <;> rfl

@[simp] theorem toOption_mismatch {α : Type} (v : Value) (expected : String) :
    (mismatch v expected : Except DataError α).toOption = none := by
  simp [mismatch]

/-! ## Fields -/

/-- The fields of an interface besides its tag, in order. -/
def interfaceFields : Transport → List String
  | .udp => udpFields
  | .tcp => tcpFields

/-- The address that an interface cannot do without. -/
def neededField : Transport → String
  | .udp => "listen"
  | .tcp => "remote"

/-- The change that one member makes to the fields of an interface. -/
def fieldChange (needed field : String) (content : Content) :
    Except Cause (InterfaceFields → InterfaceFields) :=
  let address := if field = needed then fun c => (readAddress c).map some
    else optional readAddress
  match field with
  | "listen" => (address content).map fun x f => { f with listen := x }
  | "remote" => (address content).map fun x f => { f with remote := x }
  | "mtu" => (readSize content).map fun x f => { f with mtu := x }
  | "receive-buffer-size" =>
    (optional readSize content).map fun x f => { f with receiveBuffer := x }
  | _ => (readSize content).map fun x f => { f with sendQueue := x }

theorem map_apply {ε α σ : Type} (x : Except ε α) (f : α → σ → σ) (record : σ) :
    (x.map f).map (fun set => set record) = x >>= fun a => pure (f a record) := by
  cases x <;> rfl

theorem readInterfaceField_eq (needed : String) :
    readInterfaceField needed = reading (fieldChange needed) := by
  funext f field content
  unfold readInterfaceField
  dsimp only
  split <;> simp only [reading, fieldChange, map_apply]

theorem eq_of_map_eq_ok {ε α β : Type} {x : Except ε α} {f : α → β} {b : β}
    (mapped : x.map f = .ok b) : ∃ a, x = .ok a ∧ f a = b := by
  cases x with
  | error e => simp [Except.map] at mapped
  | ok a => exact ⟨a, rfl, Except.ok.inj mapped⟩

theorem commute_of_map {ε α β σ : Type} {x : Except ε α} {y : Except ε β} {f : α → σ → σ}
    {g : β → σ → σ} {set other : σ → σ} (changed : x.map f = .ok set)
    (alsoChanged : y.map g = .ok other)
    (commute : ∀ a b record, f a (g b record) = g b (f a record)) (record : σ) :
    set (other record) = other (set record) := by
  obtain ⟨a, -, rfl⟩ := eq_of_map_eq_ok changed
  obtain ⟨b, -, rfl⟩ := eq_of_map_eq_ok alsoChanged
  exact commute a b record

theorem fieldChange_independent (needed : String) : Independent tcpFields (fieldChange needed) := by
  intro f known g alsoKnown distinct a b set other changed alsoChanged record
  simp only [tcpFields, List.mem_cons, List.not_mem_nil, or_false] at known alsoKnown
  rcases known with rfl | rfl | rfl | rfl | rfl <;>
    rcases alsoKnown with rfl | rfl | rfl | rfl | rfl <;>
    first
    | exact absurd rfl distinct
    | exact commute_of_map changed alsoChanged (fun _ _ _ => rfl) record

theorem interfaceFields_subset {t : Transport} {field : String}
    (known : field ∈ interfaceFields t) : field ∈ tcpFields := by
  cases t with
  | udp =>
      simp only [interfaceFields, udpFields, List.mem_cons, List.not_mem_nil, or_false] at known
      rcases known with rfl | rfl | rfl | rfl <;> decide
  | tcp => exact known

theorem independent_interfaceFields (t : Transport) (needed : String) :
    Independent (interfaceFields t) (fieldChange needed) :=
  fun f here g there => fieldChange_independent needed f (interfaceFields_subset here) g
    (interfaceFields_subset there)

/-- The interface that fields make, if none is missing. -/
def assemble : Transport → InterfaceFields → Option Interface
  | .udp, f => f.listen.map fun listen => .udp listen f.remote f.mtu f.receiveBuffer
  | .tcp, f => f.remote.map fun remote => .tcp remote f.listen f.mtu f.receiveBuffer f.sendQueue

/-- Reads the fields of an interface. -/
def readFields (t : Transport) (contents : Contents) : Except Cause InterfaceFields :=
  readContents (interfaceFields t) (reading (fieldChange (neededField t))) {} contents

/-- An interface is made of its fields, unless there are too many items. -/
theorem toOption_interfaceOf (t : Transport) {contents : Contents}
    (fits : noExcess (interfaceFields t).length contents = .ok ()) :
    (interfaceOf t contents).toOption = (readFields t contents).toOption.bind (assemble t) := by
  cases t with
  | udp =>
      simp only [interfaceOf, readInterfaceField_eq, toOption_bind]
      refine Option.bind_congr fun f _ => ?_
      cases listen : f.listen <;> simp_all [assemble, interfaceFields]
  | tcp =>
      simp only [interfaceOf, readInterfaceField_eq, toOption_bind]
      refine Option.bind_congr fun f _ => ?_
      cases remote : f.remote <;> simp_all [assemble, interfaceFields]

/-! ## Tags and contents -/

/-- What a member of an interface comes to by itself: a tag, or the content of a field. -/
def entry (member : Key × Value) : Option (Transport ⊕ (String × Content)) :=
  member.1.content.bind fun name =>
    if name = tagField then (readTag member.2).toOption.map .inl
    else member.2.content.toOption.map fun content => .inr (name, content)

/-- The tags of an interface. -/
def tagsOf (found : List (Transport ⊕ (String × Content))) : List Transport :=
  found.filterMap Sum.getLeft?

/-- The contents of the fields of an interface. -/
def contentsOf (found : List (Transport ⊕ (String × Content))) : List (String × Content) :=
  found.filterMap Sum.getRight?

section Apart

variable {t : Transport} {said : String × Content} {found : List (Transport ⊕ (String × Content))}

@[simp] theorem tagsOf_nil : tagsOf [] = [] := rfl

@[simp] theorem tagsOf_inl : tagsOf (.inl t :: found) = t :: tagsOf found := rfl

@[simp] theorem tagsOf_inr : tagsOf (.inr said :: found) = tagsOf found := rfl

@[simp] theorem contentsOf_nil : contentsOf [] = [] := rfl

@[simp] theorem contentsOf_inl : contentsOf (.inl t :: found) = contentsOf found := rfl

@[simp] theorem contentsOf_inr : contentsOf (.inr said :: found) = said :: contentsOf found := rfl

end Apart

theorem entry_eq_inl_iff {member : Key × Value} {t : Transport} :
    entry member = some (.inl t) ↔
      member.1.content = some tagField ∧ readTag member.2 = .ok t := by
  simp only [entry, Option.bind_eq_some_iff]
  constructor
  · rintro ⟨name, content, one⟩
    split at one
    · rename_i isTag
      simp only [Option.map_eq_some_iff, Sum.inl.injEq, exists_eq_right,
        toOption_eq_some_iff] at one
      exact ⟨isTag ▸ content, one⟩
    · simp at one
  · rintro ⟨content, tag⟩
    exact ⟨tagField, content, by simp [tag]⟩

theorem entry_eq_inr_iff {member : Key × Value} {name : String} {content : Content} :
    entry member = some (.inr (name, content)) ↔
      member.1.content = some name ∧ name ≠ tagField ∧ member.2.content = .ok content := by
  simp only [entry, Option.bind_eq_some_iff]
  constructor
  · rintro ⟨key, named, one⟩
    split at one
    · simp at one
    · rename_i other
      simp only [Option.map_eq_some_iff, Sum.inr.injEq, Prod.mk.injEq, toOption_eq_some_iff] at one
      obtain ⟨said, one, rfl, rfl⟩ := one
      exact ⟨named, other, one⟩
  · rintro ⟨named, other, said⟩
    exact ⟨name, named, by simp [other, said]⟩

theorem flawless_name_of_content {key : Key} {name : String} (content : key.content = some name) :
    flawless key.name = .ok name := by
  simp [Key.name, textContent, content, located, flawless]

theorem untag_tag {mark : Mark} {key : Key} (content : key.content = some tagField)
    (value : Value) (rest : List (Key × Value)) (taken : Untagged) :
    untag mark ((key, value) :: rest) taken =
      if taken.tag.isSome then .error ⟨mark, .duplicateField tagField⟩
      else readTag value >>= fun tag => untag mark rest { taken with tag := some tag } := by
  simp only [untag, flawless_name_of_content content, bind, Except.bind, if_true]

theorem untag_other {mark : Mark} {key : Key} {name : String} (content : key.content = some name)
    (other : name ≠ tagField) (value : Value) (rest : List (Key × Value)) (taken : Untagged) :
    untag mark ((key, value) :: rest) taken =
      flawless value.content >>= fun content =>
        untag mark rest { taken with others := taken.others ++ [(name, content)] } := by
  simp only [untag, flawless_name_of_content content, bind, Except.bind, if_neg other]

/-- The members are taken apart if each comes to something, and one at most to a tag. -/
theorem untag_eq_ok_iff {mark : Mark} {members : List (Key × Value)} {taken result : Untagged} :
    untag mark members taken = .ok result ↔
      ∃ found, Yields entry members found ∧ (taken.tag.toList ++ tagsOf found).length ≤ 1 ∧
        ⟨(taken.tag.toList ++ tagsOf found).head?, taken.others ++ contentsOf found⟩ = result := by
  -- The tag that is taken already counts as the first that is found.
  induction members generalizing taken with
  | nil =>
      obtain ⟨tag, others⟩ := taken
      cases tag <;> simp [untag, yields_nil_iff]
  | cons member rest ih =>
      obtain ⟨key, value⟩ := member
      simp only [yields_cons_iff]
      cases content : key.content with
      | none =>
          have refused : entry (key, value) = none := by simp [entry, content]
          simp [untag, Key.name, textContent, content, located, flawless, bind, Except.bind,
            refused]
      | some name =>
          by_cases isTag : name = tagField
          · subst isTag
            rw [untag_tag content]
            cases tag : readTag value with
            | error e =>
                have refused : entry (key, value) = none := by simp [entry, content, tag]
                cases taken.tag <;> simp [refused, bind, Except.bind]
            | ok t =>
                have one : entry (key, value) = some (.inl t) := entry_eq_inl_iff.2 ⟨content, tag⟩
                cases first : taken.tag with
                | none => simp [one, bind, Except.bind, ih]
                | some _ => simp [one]
          · rw [untag_other content isTag]
            cases said : value.content with
            | error e =>
                have refused : entry (key, value) = none := by simp [entry, content, said, isTag]
                simp [refused, bind, Except.bind, flawless]
            | ok c =>
                have one : entry (key, value) = some (.inr (name, c)) :=
                  entry_eq_inr_iff.2 ⟨content, isTag, said⟩
                simp [one, bind, Except.bind, flawless, ih]

theorem toOption_readInterface_object (root mark : Mark) (members : List (Key × Value)) :
    (readInterface root (.object mark members)).toOption =
      (untag mark members {}).toOption.bind fun taken => taken.tag.bind fun t =>
        (readFields t (.named taken.others)).toOption.bind (assemble t) := by
  simp only [readInterface, toOption_bind]
  refine Option.bind_congr fun taken _ => ?_
  cases taken.tag with
  | none => rfl
  | some t =>
      have fits : noExcess (interfaceFields t).length (.named taken.others) = .ok () := rfl
      simp [toOption_interfaceOf t fits]

/-- An object is an interface if it has one tag and its contents make the fields. -/
theorem readInterface_object_iff {root mark : Mark} {members : List (Key × Value)}
    {i : Interface} :
    readInterface root (.object mark members) = .ok i ↔
      ∃ found t f, Yields entry members found ∧ tagsOf found = [t] ∧
        readFields t (.named (contentsOf found)) = .ok f ∧ assemble t f = some i := by
  rw [← toOption_eq_some_iff, toOption_readInterface_object]
  simp only [Option.bind_eq_some_iff, toOption_eq_some_iff, untag_eq_ok_iff, Option.toList_none,
    List.nil_append]
  constructor
  · rintro ⟨_, ⟨found, yields, single, rfl⟩, t, first, f, read, made⟩
    refine ⟨found, t, f, yields, ?_, read, made⟩
    obtain ⟨more, tags⟩ := List.head?_eq_some_iff.1 first
    rw [tags] at single ⊢
    rw [List.eq_nil_of_length_eq_zero (Nat.le_zero.1 (Nat.le_of_succ_le_succ single))]
  · rintro ⟨found, t, f, yields, tags, read, made⟩
    exact ⟨_, ⟨found, yields, by simp [tags], rfl⟩, t, by simp [tags], f, read, made⟩

/-! ## Places and order -/

theorem readTag_bare (v : Value) : (readTag v.bare).toOption = (readTag v).toOption := by
  cases v with
  | string mark content =>
      simp only [Value.bare, readTag, toOption_bind, toOption_flawless, toOption_located]
      refine Option.bind_congr fun name _ => ?_
      split <;> rfl
  | _ => simp [Value.bare, readTag]

theorem entry_bareMember (member : Key × Value) : entry (bareMember member) = entry member := by
  simp only [entry, bareMember, Key.bare, readTag_bare, content_bare]

theorem readInterface_object_congr {members others : List (Key × Value)}
    (alike : List.Forall₂ (fun member other => entry member = entry other) members others)
    (root root' mark mark' : Mark) :
    (readInterface root (.object mark members)).toOption =
      (readInterface root' (.object mark' others)).toOption :=
  toOption_eq_of_iff fun i => by simp only [readInterface_object_iff, yields_congr alike]

theorem toOption_readInterface_array (root mark : Mark) (first : Value) (rest : List Value) :
    (readInterface root (.array mark (first :: rest))).toOption =
      (readTag first).toOption.bind fun t => (itemContents rest).toOption.bind fun items =>
        (interfaceOf t (.positional items)).toOption := by
  simp only [readInterface, toOption_bind, toOption_flawless, toOption_reportedAt]

theorem readInterface_bare (root root' : Mark) (v : Value) :
    (readInterface root v.bare).toOption = (readInterface root' v).toOption := by
  cases v with
  | object mark members =>
      rw [Value.bare, bareMembers_eq_map]
      refine readInterface_object_congr ?_ root root' _ mark
      exact List.forall₂_map_left_iff.2 (List.forall₂_same.2 fun m _ => entry_bareMember m)
  | array mark items =>
      cases items with
      | nil => rfl
      | cons first rest =>
          simp only [Value.bare, bareItems, toOption_readInterface_array, readTag_bare,
            itemContents_bare]
  | _ => simp [Value.bare, readInterface]

/-- The order of the members makes no difference, that of the tag among them neither. -/
theorem readInterface_object_perm {members others : List (Key × Value)}
    (same : members.Perm others) (root root' mark mark' : Mark) :
    (readInterface root (.object mark members)).toOption =
      (readInterface root' (.object mark' others)).toOption := by
  have moved {root root' mark mark' : Mark} {members others : List (Key × Value)} {i : Interface}
      (same : members.Perm others) (read : readInterface root (.object mark members) = .ok i) :
      readInterface root' (.object mark' others) = .ok i := by
    obtain ⟨found, t, f, yields, tags, read, made⟩ := readInterface_object_iff.1 read
    obtain ⟨moved, yields, same⟩ := yields.perm same
    have tagged : (tagsOf found).Perm (tagsOf moved) := same.filterMap Sum.getLeft?
    refine readInterface_object_iff.2 ⟨moved, t, f, yields, ?_, ?_, made⟩
    · rw [tags] at tagged
      exact (List.singleton_perm.1 tagged).symm
    · rw [← toOption_eq_some_iff] at read ⊢
      rw [← read]
      exact (readMembers_perm (independent_interfaceFields t _) (same.filterMap Sum.getRight?)
        _).symm
  exact toOption_eq_of_iff fun i => ⟨moved same, moved same.symm⟩

/-! ## Members twice and members left out -/

/-- The names of the members of an object. -/
def names (members : List (Key × Value)) : List String :=
  members.filterMap fun member => member.1.content

/-- Members name this transport. -/
def Tagged (members : List (Key × Value)) (t : Transport) : Prop :=
  ∃ member ∈ members, member.1.content = some tagField ∧ readTag member.2 = .ok t

/-- The members of an interface that are recognised: its tag and the fields of its transport. -/
def InterfaceMember (members : List (Key × Value)) (field : String) : Prop :=
  field = tagField ∨ ∃ t, Tagged members t ∧ field ∈ interfaceFields t

/-- The members that an interface cannot do without. -/
def InterfaceNeed (members : List (Key × Value)) (field : String) : Prop :=
  field = tagField ∨ ∃ t, Tagged members t ∧ field = neededField t

/-- An object of which members are left out: of the recognised ones those that are gone. -/
def Leaves (recognised : String → Prop) (gone : String → Bool)
    (keeps : String → Value → Value → Prop) : List (Key × Value) → List (Key × Value) → Prop :=
  Thinned (fun member => ∀ name, member.1.content = some name → recognised name → gone name = true)
    fun member kept => kept.1.content = member.1.content ∧
      ∀ name, member.1.content = some name →
        (recognised name → gone name = false) ∧ keeps name member.2 kept.2

theorem count_names {members : List (Key × Value)}
    {found : List (Transport ⊕ (String × Content))} (yields : Yields entry members found) :
    (names members).count tagField = (tagsOf found).length ∧
      ∀ name ≠ tagField, (names members).count name =
        ((contentsOf found).map Prod.fst).count name := by
  induction yields with
  | nil => exact ⟨rfl, fun name _ => rfl⟩
  | @cons member x rest found one _ ih =>
      obtain ⟨tags, others⟩ := ih
      have named {name : String} (content : member.1.content = some name) :
          names (member :: rest) = name :: names rest := by simp [names, content]
      cases x with
      | inl t =>
          rw [named (entry_eq_inl_iff.1 one).1, List.count_cons_self, tags]
          refine ⟨rfl, fun name other => ?_⟩
          rw [List.count_cons_of_ne other.symm, others name other, contentsOf_inl]
      | inr said =>
          obtain ⟨content, distinct, -⟩ := entry_eq_inr_iff.1 one
          rw [named content, List.count_cons_of_ne distinct, tags, tagsOf_inr]
          refine ⟨rfl, fun name other => ?_⟩
          rw [List.count_cons, others name other, contentsOf_inr, List.map_cons, List.count_cons]

theorem tagged_iff_of_yields {members : List (Key × Value)}
    {found : List (Transport ⊕ (String × Content))} (yields : Yields entry members found)
    {t : Transport} : Tagged members t ↔ t ∈ tagsOf found := by
  simp only [tagsOf, List.mem_filterMap, Sum.getLeft?_eq_some_iff, exists_eq_right]
  constructor
  · rintro ⟨member, here, content, tag⟩
    obtain ⟨x, there, one⟩ := yields.mem here
    rw [entry_eq_inl_iff.2 ⟨content, tag⟩] at one
    exact Option.some.inj one ▸ there
  · intro here
    obtain ⟨member, there, one⟩ := yields.exists_of_mem here
    exact ⟨member, there, entry_eq_inl_iff.1 one⟩

/-- A tag that is given twice is refused, and so is a field of its transport. -/
theorem readInterface_repeated {members : List (Key × Value)} {name : String}
    (recognised : InterfaceMember members name)
    (twice : 2 ≤ (names members).count name) (root mark : Mark) :
    (readInterface root (.object mark members)).toOption = none := by
  refine toOption_eq_none_iff.2 fun i accepted => ?_
  obtain ⟨found, t, f, yields, tags, read, -⟩ := readInterface_object_iff.1 accepted
  obtain ⟨tagCount, counts⟩ := count_names yields
  by_cases isTag : name = tagField
  · rw [isTag, tagCount, tags] at twice
    simp at twice
  · obtain isTag' | ⟨other, tagged, known⟩ := recognised
    · exact isTag isTag'
    · rw [tagged_iff_of_yields yields, tags, List.mem_singleton] at tagged
      subst tagged
      rw [counts name isTag] at twice
      have refused : (readFields other (.named (contentsOf found))).toOption = none :=
        readMembers_repeated known (by simpa using twice) _
      exact toOption_eq_none_iff.1 refused f read

/-- Fields of which some are left out. -/
def InterfaceFields.without (gone : String → Bool) (f : InterfaceFields) : InterfaceFields where
  listen := if gone "listen" then none else f.listen
  remote := if gone "remote" then none else f.remote
  mtu := if gone "mtu" then Interface.defaultMtu else f.mtu
  receiveBuffer := if gone "receive-buffer-size" then none else f.receiveBuffer
  sendQueue := if gone "send-queue" then Interface.defaultSendQueue else f.sendQueue

@[simp] theorem InterfaceFields.without_default (gone : String → Bool) :
    ({} : InterfaceFields).without gone = {} := by
  simp [InterfaceFields.without]

/-- An interface of which some fields are left out. -/
def without (gone : String → Bool) : Interface → Interface
  | .udp listen remote mtu receiveBuffer =>
    .udp listen (if gone "remote" then none else remote)
      (if gone "mtu" then Interface.defaultMtu else mtu)
      (if gone "receive-buffer-size" then none else receiveBuffer)
  | .tcp remote listen mtu receiveBuffer sendQueue =>
    .tcp remote (if gone "listen" then none else listen)
      (if gone "mtu" then Interface.defaultMtu else mtu)
      (if gone "receive-buffer-size" then none else receiveBuffer)
      (if gone "send-queue" then Interface.defaultSendQueue else sendQueue)

theorem assemble_without {t : Transport} {gone : String → Bool}
    (needed : gone (neededField t) = false) (f : InterfaceFields) :
    assemble t (f.without gone) = (assemble t f).map (without gone) := by
  cases t with
  | udp =>
      cases listen : f.listen <;> simp_all [assemble, InterfaceFields.without, neededField, without]
  | tcp =>
      cases remote : f.remote <;> simp_all [assemble, InterfaceFields.without, neededField, without]

theorem without_fieldChange {needed name : String} {content : Content}
    {set : InterfaceFields → InterfaceFields} (known : name ∈ tcpFields)
    (changed : fieldChange needed name content = .ok set) (gone : String → Bool)
    (f : InterfaceFields) :
    (set f).without gone = if gone name then f.without gone else set (f.without gone) := by
  simp only [tcpFields, List.mem_cons, List.not_mem_nil, or_false] at known
  cases isGone : gone name <;>
    rcases known with rfl | rfl | rfl | rfl | rfl <;>
    (obtain ⟨x, -, rfl⟩ := eq_of_map_eq_ok changed
     simp [InterfaceFields.without, isGone])

theorem Leaves.yields {recognised : String → Prop} {gone : String → Bool}
    {members left : List (Key × Value)} {found : List (Transport ⊕ (String × Content))}
    (leaves : Leaves recognised gone (fun _ v w => w = v) members left)
    (yields : Yields entry members found) (tag : recognised tagField)
    (stays : gone tagField = false) :
    ∃ fewer, Yields entry left fewer ∧ tagsOf fewer = tagsOf found ∧
      Thinned (fun said => recognised said.1 → gone said.1 = true)
        (fun said kept => kept = said ∧ (recognised said.1 → gone said.1 = false))
        (contentsOf found) (contentsOf fewer) := by
  -- The general law of thinned items does not tell the tags from the contents.
  induction leaves generalizing found with
  | nil =>
      obtain rfl := yields_nil_iff.1 yields
      exact ⟨[], .nil, rfl, .nil⟩
  | @drop member rest left dropped _ ih =>
      obtain ⟨x, others, rfl, one, yields⟩ := yields_cons_iff.1 yields
      obtain ⟨fewer, yieldsLeft, tags, thinned⟩ := ih yields
      cases x with
      | inl t =>
          have gone := dropped _ (entry_eq_inl_iff.1 one).1 tag
          simp [stays] at gone
      | inr said =>
          exact ⟨fewer, yieldsLeft, tags, .drop (dropped _ (entry_eq_inr_iff.1 one).1) thinned⟩
  | @keep member kept rest left changed _ ih =>
      obtain ⟨x, others, rfl, one, yields⟩ := yields_cons_iff.1 yields
      obtain ⟨fewer, yieldsLeft, tags, thinned⟩ := ih yields
      obtain ⟨content, each⟩ := changed
      have same {name : String} (named : member.1.content = some name) : entry kept = some x := by
        rw [← one, entry, entry, content, (each name named).2]
      cases x with
      | inl t =>
          exact ⟨.inl t :: fewer, .cons (same (entry_eq_inl_iff.1 one).1) yieldsLeft,
            congrArg (t :: ·) tags, thinned⟩
      | inr said =>
          have named := (entry_eq_inr_iff.1 one).1
          exact ⟨.inr said :: fewer, .cons (same named) yieldsLeft, tags,
            .keep ⟨rfl, (each _ named).1⟩ thinned⟩

theorem readFields_leaves {t : Transport} {said left : List (String × Content)}
    {gone : String → Bool} {f : InterfaceFields}
    (thinned : Thinned (fun x => x.1 ∈ interfaceFields t → gone x.1 = true)
      (fun x kept => kept = x ∧ (x.1 ∈ interfaceFields t → gone x.1 = false)) said left)
    (read : readFields t (.named said) = .ok f) :
    readFields t (.named left) = .ok (f.without gone) := by
  rw [readFields, ← InterfaceFields.without_default gone]
  refine readMembers_thinned (InterfaceFields.without gone)
    (thinned.imp (fun x dropped y one => ?_) fun x kept changed y one => ?_) read
  all_goals
    obtain ⟨field, named, settles⟩ := setting_eq_some_iff.1 one
    obtain rfl := Except.ok.inj named
    obtain ⟨known, set, made, rfl⟩ | ⟨-, -, rfl⟩ := settles
  · exact fun record => by
      rw [without_fieldChange (interfaceFields_subset known) made, if_pos (dropped known)]
  · trivial
  · obtain ⟨rfl, stays⟩ := changed
    refine ⟨_, one, .set fun record => ?_⟩
    rw [without_fieldChange (interfaceFields_subset known) made,
      if_neg (by simp [stays known])]
  · obtain ⟨rfl, -⟩ := changed
    exact ⟨none, one, .passed⟩

/-- What is left of an interface, if it has its tag and its address, is the interface with
the defaults in place of the fields that are gone. -/
theorem readInterface_leaves {members left : List (Key × Value)} {gone : String → Bool}
    {root root' mark mark' : Mark} {i : Interface}
    (leaves : Leaves (InterfaceMember members) gone (fun _ v w => w = v) members left)
    (needed : ∀ name, InterfaceNeed members name → gone name = false)
    (accepted : readInterface root (.object mark members) = .ok i) :
    readInterface root' (.object mark' left) = .ok (without gone i) := by
  obtain ⟨found, t, f, yields, tags, read, made⟩ := readInterface_object_iff.1 accepted
  have tagged : Tagged members t := (tagged_iff_of_yields yields).2 (by simp [tags])
  obtain ⟨fewer, yieldsLeft, sameTags, thinned⟩ := leaves.yields yields (.inl rfl)
    (needed tagField (.inl rfl))
  refine readInterface_object_iff.2 ⟨fewer, t, f.without gone, yieldsLeft, sameTags.trans tags,
    readFields_leaves (thinned.imp ?_ ?_) read, ?_⟩
  · exact fun said dropped known => dropped (.inr ⟨t, tagged, known⟩)
  · exact fun said kept changed => ⟨changed.1, fun known => changed.2 (.inr ⟨t, tagged, known⟩)⟩
  · rw [assemble_without (needed _ (.inr ⟨t, tagged, rfl⟩)), made, Option.map_some]

end MediaTransport.Config
