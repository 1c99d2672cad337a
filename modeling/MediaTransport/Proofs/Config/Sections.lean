/-
# MediaTransport.Proofs.Config.Sections -- sections as records of a configuration

A configuration is a record whose members are sections, and a section is a record too: an
interface, or one that holds a single value.  What is needed to know about a section is the same
for all of them (`Section`): how it is read and which part of the configuration it sets, that
neither places nor the order of its members matter, that no member may be repeated, and which
defaults stand in for the members that are left out (`lawful`).
-/
import MediaTransport.Proofs.Config.Interfaces

namespace MediaTransport.Config

set_option autoImplicit false

open Json5

/-! ## Records of values -/

section Values

variable {σ : Type} {expected expected' : String} {fields : List String}
  {change change' : String → Value → Except DataError (σ → σ)}
  {members others left : List (Key × Value)}

/-- What a member of a record comes to by itself. -/
def memberSetting (fields : List String) (change : String → Value → Except DataError (σ → σ)) :
    Key × Value → Option (Option (String × (σ → σ))) :=
  setting (fun key => flawless (Key.name key))
    (fun value => (flawless value.content).map fun _ => ()) fields change

theorem memberSetting_eq (member : Key × Value) :
    memberSetting fields change member = member.1.content.bind fun field =>
      if field ∈ fields then (change field member.2).toOption.map fun set => some (field, set)
      else member.2.content.toOption.map fun _ => none := by
  simp only [memberSetting, setting, toOption_flawless, toOption_name, toOption_map, Option.map_map,
    Function.comp_def]

theorem memberSetting_congr {member other : Key × Value}
    (content : other.1.content = member.1.content)
    (known : ∀ field ∈ fields, member.1.content = some field →
      (change field member.2).toOption = (change' field other.2).toOption)
    (unknown : ∀ field ∉ fields, member.1.content = some field →
      member.2.content.toOption = other.2.content.toOption) :
    memberSetting fields change member = memberSetting fields change' other := by
  rw [memberSetting_eq, memberSetting_eq, content]
  refine Option.bind_congr fun field named => ?_
  split
  · rename_i here
    rw [known field here named]
  · rename_i missing
    rw [unknown field missing named]

theorem readRecord_congr (alike : List.Forall₂ (fun member other =>
      memberSetting fields change member = memberSetting fields change' other) members others)
    (mark mark' : Mark) (start : σ) :
    (readRecord expected fields (reading change) start (.object mark members)).toOption =
      (readRecord expected' fields (reading change') start (.object mark' others)).toOption :=
  readMembers_congr alike start

theorem readRecord_perm (independent : Independent fields change) (same : members.Perm others)
    (mark mark' : Mark) (start : σ) :
    (readRecord expected fields (reading change) start (.object mark members)).toOption =
      (readRecord expected' fields (reading change) start (.object mark' others)).toOption :=
  readMembers_perm independent same start

theorem readRecord_repeated {field : String} (known : field ∈ fields)
    (twice : 2 ≤ (names members).count field) (mark : Mark) (start : σ) :
    (readRecord expected fields (reading change) start (.object mark members)).toOption = none := by
  refine readMembers_repeated known ?_ start
  simpa only [toOption_flawless, toOption_name, names] using twice

theorem readItems_congr {items others : List Value} {known : List String}
    (alike : List.Forall₂ (fun v w => ∀ field ∈ known,
      (change field v).toOption = (change' field w).toOption) items others)
    (fields : List String) (all : ∀ field ∈ fields, field ∈ known) (start : σ) :
    (readItems (reading change) fields items start).toOption =
      (readItems (reading change') fields others start).toOption := by
  induction alike generalizing fields start with
  | nil => cases fields <;> rfl
  | cons same _ ih =>
      cases fields with
      | nil => rfl
      | cons field fields =>
          rw [List.forall_mem_cons] at all
          simp only [readItems, reading, toOption_bind, toOption_map, same field all.1]
          exact Option.bind_congr fun record _ => ih fields all.2 record

/-- The places in a record make no difference if those in its fields make none. -/
theorem readRecord_bare
    (same : ∀ field ∈ fields, ∀ v, (change field v.bare).toOption = (change' field v).toOption)
    (start : σ) (v : Value) :
    (readRecord expected fields (reading change) start v.bare).toOption =
      (readRecord expected' fields (reading change') start v).toOption := by
  cases v with
  | object mark members =>
      rw [Value.bare, bareMembers_eq_map]
      refine readRecord_congr
        (List.forall₂_map_left_iff.2 (List.forall₂_same.2 fun m _ => ?_)) _ _ _
      exact memberSetting_congr rfl (fun field known _ => same field known m.2)
        fun _ _ _ => content_bare m.2
  | array mark items =>
      rw [Value.bare, bareItems_eq_map]
      exact readItems_congr (List.forall₂_map_left_iff.2 (List.forall₂_same.2 fun v _ field known =>
        same field known v)) fields (fun _ known => known) start
  | _ => simp [Value.bare, readRecord]

/-- A record has every field that its members set. -/
theorem readRecord_sets (independent : Independent fields change)
    (replaces : ∀ f ∈ fields, ∀ (v : Value) (set : σ → σ), change f v = .ok set →
      ∀ record, set (set record) = set record) {mark : Mark} {start result : σ}
    (read : readRecord expected fields (reading change) start (.object mark members) = .ok result)
    {member : Key × Value} (here : member ∈ members) {field : String}
    (content : member.1.content = some field) (known : field ∈ fields) :
    ∃ set, change field member.2 = .ok set ∧ set result = result :=
  readMembers_sets independent replaces read here (flawless_name_of_content content) known

/-- What is left of the members makes the restored record. -/
theorem readRecord_leaves (restore : σ → σ) {gone : String → Bool}
    {keeps : String → Value → Value → Prop} (leaves : Leaves (· ∈ fields) gone keeps members left)
    (lost : ∀ field ∈ fields, ∀ v set, gone field = true → change field v = .ok set →
      ∀ record, restore (set record) = restore record)
    (kept : ∀ field ∈ fields, ∀ v w set, gone field = false → keeps field v w →
      change field v = .ok set →
      ∃ other, change' field w = .ok other ∧
        ∀ record, restore (set record) = other (restore record))
    (passed : ∀ field ∉ fields, ∀ v w, keeps field v w → w = v) {mark : Mark} {start result : σ}
    (read : readRecord expected fields (reading change) start (.object mark members) = .ok result)
    (mark' : Mark) :
    readRecord expected' fields (reading change') (restore start) (.object mark' left) =
      .ok (restore result) := by
  refine readMembers_thinned restore (leaves.imp (fun member dropped x one => ?_)
    fun member other changed x one => ?_) read
  all_goals
    obtain ⟨field, named, settles⟩ := setting_eq_some_iff.1 one
    have content : member.1.content = some field := by
      rw [← toOption_name, ← toOption_flawless, named, toOption_ok]
    obtain ⟨known, set, made, rfl⟩ | ⟨unknown, skipped, rfl⟩ := settles
  · exact lost field known member.2 set (dropped field content known) made
  · trivial
  · obtain ⟨stays, keeps⟩ := changed.2 field content
    obtain ⟨another, made, mirrored⟩ := kept field known _ _ set (stays known) keeps made
    exact ⟨some (field, another), setting_eq_some_iff.2 ⟨field,
      flawless_name_of_content (changed.1.trans content), .inl ⟨known, another, made, rfl⟩⟩,
      .set mirrored⟩
  · rw [← passed field unknown _ _ (changed.2 field content).2] at skipped
    exact ⟨none, setting_eq_some_iff.2 ⟨field,
      flawless_name_of_content (changed.1.trans content), .inr ⟨unknown, skipped, rfl⟩⟩, .passed⟩

end Values

/-! ## Records of one value -/

section Single

variable {α : Type} {expected expected' field : String} {read : Value → Except DataError α}
  {start : α} {members others left : List (Key × Value)}

/-- The change that sets the only value of a record. -/
def replacing (read : Value → Except DataError α) (_ : String) (v : Value) :
    Except DataError (α → α) :=
  (read v).map fun x _ => x

/-- Reads a record of one value. -/
def readSingle (expected field : String) (read : Value → Except DataError α) (start : α) :
    Value → Except DataError α :=
  readRecord expected [field] (fun _ _ v => read v) start

theorem readSingle_eq :
    readSingle expected field read start =
      readRecord expected [field] (reading (replacing read)) start := by
  have same : reading (replacing read) = fun _ _ v => read v := by
    funext _ _ v
    cases answer : read v <;> simp [reading, replacing, answer, Except.map]
  rw [readSingle, same]

theorem toOption_replacing_congr {v w : Value} (same : (read v).toOption = (read w).toOption)
    (field : String) : (replacing read field v).toOption = (replacing read field w).toOption := by
  simp only [replacing, toOption_map, same]

theorem readSingle_bare (same : ∀ v, (read v.bare).toOption = (read v).toOption) (v : Value) :
    (readSingle expected field read start v.bare).toOption =
      (readSingle expected' field read start v).toOption := by
  rw [readSingle_eq, readSingle_eq]
  exact readRecord_bare (fun field _ v => toOption_replacing_congr (same v) field) start v

theorem readSingle_perm (same : members.Perm others) (mark mark' : Mark) :
    (readSingle expected field read start (.object mark members)).toOption =
      (readSingle expected' field read start (.object mark' others)).toOption := by
  rw [readSingle_eq, readSingle_eq]
  refine readRecord_perm (fun f here g there distinct => ?_) same mark mark' start
  rw [List.mem_singleton.1 here, List.mem_singleton.1 there] at distinct
  exact absurd rfl distinct

theorem readSingle_repeated (twice : 2 ≤ (names members).count field) (mark : Mark) :
    (readSingle expected field read start (.object mark members)).toOption = none := by
  rw [readSingle_eq]
  exact readRecord_repeated List.mem_cons_self twice mark start

theorem readSingle_leaves {gone : String → Bool}
    (leaves : Leaves (· = field) gone (fun _ v w => w = v) members left) {mark : Mark} {result : α}
    (accepted : readSingle expected field read start (.object mark members) = .ok result)
    (mark' : Mark) :
    readSingle expected' field read start (.object mark' left) =
      .ok (if gone field then start else result) := by
  have leaves : Leaves (· ∈ [field]) gone (fun _ v w => w = v) members left := by
    simpa only [List.mem_singleton] using leaves
  rw [readSingle_eq] at accepted ⊢
  suffices kept : readRecord expected' [field] (reading (replacing read))
      (if gone field then start else start) (.object mark' left) =
        .ok (if gone field then start else result) by
    simpa using kept
  refine readRecord_leaves (fun x => if gone field then start else x) leaves ?_ ?_ ?_ accepted mark'
  · rintro _ here v set dropped - record
    rw [List.mem_singleton.1 here] at dropped
    simp [dropped]
  · rintro _ here v w set stays rfl made
    rw [List.mem_singleton.1 here] at stays
    exact ⟨set, made, fun record => by simp [stays]⟩
  · exact fun _ _ v w same => same

end Single

/-! ## Sections of a configuration -/

/-- The change that one section makes to a configuration. -/
def sectionChange (root : Mark) (name : String) (v : Value) :
    Except DataError (Config → Config) :=
  match name with
  | "rtp" => (readInterface root v).map fun x c => { c with rtp := x }
  | "rtcp" => (readInterface root v).map fun x c => { c with rtcp := x }
  | "rate-limit" => (readRateLimit v).map fun x c => { c with minBackoff := x }
  | "pool" => (readPool v).map fun x c => { c with poolCapacity := x }
  | "strategy" => (readStrategy v).map fun x c => { c with packetLogger := x }
  | _ => (readLog v).map fun x c => { c with logLevel := x }

theorem readSection_eq (root : Mark) : readSection root = reading (sectionChange root) := by
  funext c name v
  unfold readSection
  split <;> simp only [reading, sectionChange, map_apply]

theorem independent_sections (root : Mark) : Independent sections (sectionChange root) := by
  intro f known g alsoKnown distinct a b set other changed alsoChanged record
  simp only [sections, List.mem_cons, List.not_mem_nil, or_false] at known alsoKnown
  rcases known with rfl | rfl | rfl | rfl | rfl | rfl <;>
    rcases alsoKnown with rfl | rfl | rfl | rfl | rfl | rfl <;>
    first
    | exact absurd rfl distinct
    | exact commute_of_map changed alsoChanged (fun _ _ _ => rfl) record

theorem sectionChange_replaces (root : Mark) : ∀ name ∈ sections, ∀ (v : Value)
    (set : Config → Config), sectionChange root name v = .ok set → ∀ c, set (set c) = set c := by
  intro name known v set changed c
  simp only [sections, List.mem_cons, List.not_mem_nil, or_false] at known
  rcases known with rfl | rfl | rfl | rfl | rfl | rfl <;>
    (obtain ⟨x, -, rfl⟩ := eq_of_map_eq_ok changed
     rfl)

/-- The members of a section that are recognised. -/
def Recognised (name : String) (members : List (Key × Value)) (field : String) : Prop :=
  match name with
  | "rtp" | "rtcp" => InterfaceMember members field
  | "rate-limit" => field = "min-backoff"
  | "pool" => field = "capacity"
  | "strategy" => field = "packet-logger"
  | "log" => field = "level"
  | _ => False

/-- The members that a section cannot do without. -/
def Needed (name : String) (members : List (Key × Value)) (field : String) : Prop :=
  match name with
  | "rtp" | "rtcp" => InterfaceNeed members field
  | _ => False

/-- The sections, and the recognised members of sections, that are left out. -/
structure Omission where
  whole : String → Bool
  parts : String → String → Bool

/-- A configuration with the defaults in place of what is left out. -/
def Omission.defaults (o : Omission) (c : Config) : Config where
  rtp := if o.whole "rtp" then ({} : Config).rtp else without (o.parts "rtp") c.rtp
  rtcp := if o.whole "rtcp" then ({} : Config).rtcp else without (o.parts "rtcp") c.rtcp
  minBackoff :=
    if o.whole "rate-limit" || o.parts "rate-limit" "min-backoff"
    then ({} : Config).minBackoff else c.minBackoff
  poolCapacity :=
    if o.whole "pool" || o.parts "pool" "capacity"
    then ({} : Config).poolCapacity else c.poolCapacity
  packetLogger :=
    if o.whole "strategy" || o.parts "strategy" "packet-logger"
    then ({} : Config).packetLogger else c.packetLogger
  logLevel :=
    if o.whole "log" || o.parts "log" "level" then ({} : Config).logLevel else c.logLevel

/-- A section: how it is read, what it sets, and what does not depend on how it is written. -/
structure Section (name : String) where
  kind : Type
  read : Mark → Value → Except DataError kind
  put : kind → Config → Config
  without : (String → Bool) → kind → kind
  change_eq (root : Mark) (v : Value) : sectionChange root name v = (read root v).map put
  bare (root root' : Mark) (v : Value) : (read root v.bare).toOption = (read root' v).toOption
  perm {members others : List (Key × Value)} (same : members.Perm others)
    (root root' mark mark' : Mark) :
    (read root (.object mark members)).toOption = (read root' (.object mark' others)).toOption
  repeated {members : List (Key × Value)} {field : String}
    (recognised : Recognised name members field) (twice : 2 ≤ (names members).count field)
    (root mark : Mark) : (read root (.object mark members)).toOption = none
  leaves {members left : List (Key × Value)} {gone : String → Bool} {root root' mark mark' : Mark}
    {x : kind} (leaves : Leaves (Recognised name members) gone (fun _ v w => w = v) members left)
    (needed : ∀ field, Needed name members field → gone field = false)
    (accepted : read root (.object mark members) = .ok x) :
    read root' (.object mark' left) = .ok (without gone x)
  restored (o : Omission) (x : kind) (c : Config) :
    o.defaults (put x c) =
      if o.whole name then o.defaults c else put (without (o.parts name) x) (o.defaults c)

/-- An interface is a section. -/
def Section.interface {name : String} (put : Interface → Config → Config)
    (recognised : Recognised name = InterfaceMember) (needed : Needed name = InterfaceNeed)
    (change_eq : ∀ root v, sectionChange root name v = (readInterface root v).map put)
    (restored : ∀ (o : Omission) x c, o.defaults (put x c) = if o.whole name then o.defaults c
      else put (Config.without (o.parts name) x) (o.defaults c)) : Section name where
  kind := Interface
  read := readInterface
  put := put
  without := Config.without
  change_eq := change_eq
  bare := readInterface_bare
  perm := readInterface_object_perm
  repeated known twice root mark := by
    rw [recognised] at known
    exact readInterface_repeated known twice root mark
  leaves leaves need accepted := by
    rw [recognised] at leaves
    rw [needed] at need
    exact readInterface_leaves leaves need accepted
  restored := restored

/-- A record of one value is a section, if the places in the value make no difference. -/
def Section.single {name : String} {α : Type} (expected field : String)
    (read : Value → Except DataError α) (start : α) (put : α → Config → Config)
    (recognised : ∀ members, Recognised name members = (· = field))
    (change_eq : ∀ root v,
      sectionChange root name v = (readSingle expected field read start v).map put)
    (bare : ∀ v, (read v.bare).toOption = (read v).toOption)
    (restored : ∀ (o : Omission) x c, o.defaults (put x c) = if o.whole name then o.defaults c
      else put (if o.parts name field then start else x) (o.defaults c)) : Section name where
  kind := α
  read _ := readSingle expected field read start
  put := put
  without gone x := if gone field then start else x
  change_eq := change_eq
  bare _ _ v := readSingle_bare bare v
  perm same _ _ mark mark' := readSingle_perm same mark mark'
  repeated known twice _ mark := by
    rw [recognised] at known
    exact readSingle_repeated (known ▸ twice) mark
  leaves leaves _ accepted := readSingle_leaves (recognised _ ▸ leaves) accepted _
  restored := restored

theorem readCount_bare (v : Value) : (readCount v.bare).toOption = (readCount v).toOption := by
  cases v <;> simp [Value.bare, readCount]

theorem readOptionalText_bare (v : Value) :
    (readOptionalText v.bare).toOption = (readOptionalText v).toOption := by
  cases v <;> simp [Value.bare, readOptionalText]

theorem readLevelName_congr (mark mark' : Mark) (name : String) :
    (readLevelName mark name).toOption = (readLevelName mark' name).toOption := by
  unfold readLevelName
  cases Log.Level.ofName? name <;> rfl

theorem readLevel_bare (v : Value) : (readLevel v.bare).toOption = (readLevel v).toOption := by
  cases v with
  | string mark content =>
      simp only [Value.bare, readLevel, toOption_bind, toOption_flawless, toOption_located,
        readLevelName_congr .start mark]
  | object mark members =>
      cases members with
      | nil => rfl
      | cons member rest =>
          obtain ⟨key, value⟩ := member
          simp only [Value.bare, bareMembers, readLevel, toOption_bind, toOption_flawless,
            toOption_name, Key.bare, readLevelName_congr .start key.mark]
          refine Option.bind_congr fun name _ => Option.bind_congr fun level _ => ?_
          cases value <;> simp [Value.bare]
  | _ => simp [Value.bare, readLevel]

/-- Every section is one. -/
theorem lawful {name : String} (known : name ∈ sections) : Nonempty (Section name) := by
  simp only [sections, List.mem_cons, List.not_mem_nil, or_false] at known
  rcases known with rfl | rfl | rfl | rfl | rfl | rfl
  · refine ⟨.interface (fun x c => { c with rtp := x }) rfl rfl (fun _ _ => rfl) fun o x c => ?_⟩
    cases gone : o.whole "rtp" <;> simp [Omission.defaults, gone]
  · refine ⟨.interface (fun x c => { c with rtcp := x }) rfl rfl (fun _ _ => rfl) fun o x c => ?_⟩
    cases gone : o.whole "rtcp" <;> simp [Omission.defaults, gone]
  · refine ⟨.single "struct RateLimit" "min-backoff" readCount ({} : Config).minBackoff
      (fun x c => { c with minBackoff := x }) (fun _ => rfl) (fun _ _ => rfl) readCount_bare
      fun o x c => ?_⟩
    cases gone : o.whole "rate-limit" <;> simp [Omission.defaults, gone]
  · refine ⟨.single "struct Pool" "capacity" readCount ({} : Config).poolCapacity
      (fun x c => { c with poolCapacity := x }) (fun _ => rfl) (fun _ _ => rfl) readCount_bare
      fun o x c => ?_⟩
    cases gone : o.whole "pool" <;> simp [Omission.defaults, gone]
  · refine ⟨.single "struct Strategy" "packet-logger" readOptionalText ({} : Config).packetLogger
      (fun x c => { c with packetLogger := x }) (fun _ => rfl) (fun _ _ => rfl)
      readOptionalText_bare fun o x c => ?_⟩
    cases gone : o.whole "strategy" <;> simp [Omission.defaults, gone]
  · refine ⟨.single "struct Log" "level" readLevel ({} : Config).logLevel
      (fun x c => { c with logLevel := x }) (fun _ => rfl) (fun _ _ => rfl) readLevel_bare
      fun o x c => ?_⟩
    cases gone : o.whole "log" <;> simp [Omission.defaults, gone]

end MediaTransport.Config
