/-
# MediaTransport.Proofs.Config.Members -- configurations as sets of members

A document describes a configuration by the members it has, not by how they are written.  The
sections of a configuration are records whose members set parts of it (`Section`), so what holds
of records holds of it twice, once for the document and once for each of its sections: the order
of the members is free (`Rearranged`), no recognised member may be repeated (`Repeats`), and
members may be left out (`Lacks`), those that are not recognised without any effect and the
others in favour of their defaults.
-/
import MediaTransport.Proofs.Config.Sections

namespace MediaTransport.Config

set_option autoImplicit false

open Json5

/-! ## Descriptions -/

/-- The configuration that a document describes, if it describes one. -/
def described (v : Value) : Option Config :=
  (ofValue v).toOption

theorem toOption_parse (text : String) :
    (parse text).toOption = (Value.parse text).bind described := by
  unfold parse
  cases Value.parse text with
  | none => rfl
  | some v =>
      cases read : ofValue v <;> simp [described, read, Except.mapError]

theorem described_eq (v : Value) :
    described v =
      (readRecord "struct Config" sections (reading (sectionChange v.mark)) {} v).toOption := by
  rw [described, ofValue, readSection_eq]

theorem described_object_eq_some_iff {mark : Mark} {members : List (Key × Value)} {c : Config} :
    described (.object mark members) = some c ↔
      readRecord "struct Config" sections (reading (sectionChange mark)) {} (.object mark members) =
        .ok c := by
  rw [described_eq, toOption_eq_some_iff, Value.mark]

theorem sectionChange_bare {name : String} (known : name ∈ sections) (root root' : Mark)
    (v : Value) :
    (sectionChange root name v.bare).toOption = (sectionChange root' name v).toOption := by
  obtain ⟨s⟩ := lawful known
  rw [s.change_eq, s.change_eq, toOption_map, toOption_map, s.bare root root']

theorem sectionChange_root {name : String} (known : name ∈ sections) (root root' : Mark)
    (v : Value) :
    (sectionChange root name v).toOption = (sectionChange root' name v).toOption :=
  (sectionChange_bare known root root v).symm.trans (sectionChange_bare known root root' v)

theorem described_bare (v : Value) : described v.bare = described v := by
  rw [described_eq, described_eq]
  exact readRecord_bare (fun name known v => sectionChange_bare known _ _ v) ({} : Config) v

/-- A configuration is made of the sections of its document. -/
theorem described_sets {mark : Mark} {members : List (Key × Value)} {c : Config}
    (read : described (.object mark members) = some c) {key : Key} {v : Value}
    (here : (key, v) ∈ members) {name : String} (named : key.content = some name)
    (known : name ∈ sections) : ∃ set, sectionChange mark name v = .ok set ∧ set c = c :=
  readRecord_sets (independent_sections mark) (sectionChange_replaces mark)
    (described_object_eq_some_iff.1 read) here named known

/-- Members that are read the same way describe the same configuration. -/
theorem described_congr {members others : List (Key × Value)}
    (alike : List.Forall₂ (fun member other => other.1.content = member.1.content ∧
      ∀ name, member.1.content = some name →
        (name ∈ sections → (sectionChange .start name member.2).toOption =
          (sectionChange .start name other.2).toOption) ∧
        (name ∉ sections → member.2.content.toOption = other.2.content.toOption)) members others)
    (mark mark' : Mark) : described (.object mark members) = described (.object mark' others) := by
  rw [described_eq, described_eq]
  refine readRecord_congr (alike.imp fun member other same => ?_) mark mark' _
  refine memberSetting_congr same.1 (fun name known content => ?_)
    fun name unknown content => (same.2 name content).2 unknown
  rw [sectionChange_root known _ .start, (same.2 name content).1 known]
  exact sectionChange_root known _ _ _

/-! ## The order of the members -/

/-- Sections of the same members, in some order. -/
inductive Reordered : Value → Value → Prop
  | same (v : Value) : Reordered v v
  | members {members others : List (Key × Value)} (mark mark' : Mark)
    (order : members.Perm others) : Reordered (.object mark members) (.object mark' others)

/-- Documents of the same members, and sections of the same members, in some order. -/
inductive Rearranged : Value → Value → Prop
  | intro {members moved others : List (Key × Value)} (mark mark' : Mark)
    (order : members.Perm moved)
    (inner : List.Forall₂ (fun member other => other.1 = member.1 ∧
      (other.2 = member.2 ∨ ∃ name ∈ sections, member.1.content = some name ∧
        Reordered member.2 other.2)) moved others) :
    Rearranged (.object mark members) (.object mark' others)

theorem sectionChange_reordered {name : String} (known : name ∈ sections) {v w : Value}
    (reordered : Reordered v w) (root : Mark) :
    (sectionChange root name v).toOption = (sectionChange root name w).toOption := by
  cases reordered with
  | same => rfl
  | members mark mark' order =>
      obtain ⟨s⟩ := lawful known
      rw [s.change_eq, s.change_eq, toOption_map, toOption_map, s.perm order root root mark mark']

theorem described_perm {members others : List (Key × Value)} (order : members.Perm others)
    (mark : Mark) : described (.object mark members) = described (.object mark others) := by
  rw [described_eq, described_eq]
  exact readRecord_perm (independent_sections mark) order mark mark {}

theorem described_rearranged {v w : Value} (rearranged : Rearranged v w) :
    described v = described w := by
  obtain ⟨mark, mark', order, inner⟩ := rearranged
  refine (described_perm order mark).trans (described_congr (inner.imp ?_) mark mark')
  rintro member other ⟨key, same | ⟨name, known, content, reordered⟩⟩
  · rw [key, same]
    exact ⟨rfl, fun name _ => ⟨fun _ => rfl, fun _ => rfl⟩⟩
  · refine ⟨congrArg Key.content key, fun field named => ?_⟩
    obtain rfl := Option.some.inj (content.symm.trans named)
    exact ⟨fun _ => sectionChange_reordered known reordered .start,
      fun unknown => absurd known unknown⟩

/-! ## Repeated members -/

/-- A recognised member occurs twice in a document or in one of its sections. -/
inductive Repeats : Value → Prop
  | config {members : List (Key × Value)} {name : String} (mark : Mark) (known : name ∈ sections)
    (twice : 2 ≤ (names members).count name) : Repeats (.object mark members)
  | inner {members inner : List (Key × Value)} {key : Key} {name field : String}
    (mark mark' : Mark) (here : (key, .object mark' inner) ∈ members)
    (named : key.content = some name) (known : name ∈ sections)
    (recognised : Recognised name inner field) (twice : 2 ≤ (names inner).count field) :
    Repeats (.object mark members)

theorem described_repeats {v : Value} (repeats : Repeats v) : described v = none := by
  cases repeats with
  | config mark known twice =>
      rw [described_eq]
      exact readRecord_repeated known twice mark _
  | @inner members inner key name field mark mark' here named known recognised twice =>
      refine Option.eq_none_iff_forall_ne_some.2 fun c read => ?_
      obtain ⟨s⟩ := lawful known
      obtain ⟨set, made, -⟩ := described_sets read here named known
      rw [s.change_eq] at made
      obtain ⟨x, accepted, -⟩ := eq_of_map_eq_ok made
      exact toOption_eq_none_iff.1 (s.repeated recognised twice mark mark') x accepted

/-! ## Members left out -/

/-- A section without the members that are left out of it; it keeps those it needs. -/
inductive Omission.Keeps (o : Omission) : String → Value → Value → Prop
  | other {name : String} (unknown : name ∉ sections) (v : Value) : o.Keeps name v v
  | inner {name : String} {members left : List (Key × Value)} (mark mark' : Mark)
    (known : name ∈ sections)
    (leaves : Leaves (Recognised name members) (o.parts name) (fun _ v w => w = v) members left)
    (needed : ∀ field, Needed name members field → o.parts name field = false) :
    o.Keeps name (.object mark members) (.object mark' left)

/-- A document without what is left out of it: the sections and the recognised members of
sections that an omission tells, and any others. -/
inductive Lacks (o : Omission) : Value → Value → Prop
  | intro {members left : List (Key × Value)} (mark mark' : Mark)
    (leaves : Leaves (· ∈ sections) o.whole o.Keeps members left) :
    Lacks o (.object mark members) (.object mark' left)

/-- No section and no recognised member is left out. -/
def Omission.nothing : Omission :=
  ⟨fun _ => false, fun _ _ => false⟩

theorem Omission.defaults_nothing (c : Config) : nothing.defaults c = c := by
  obtain ⟨rtp, rtcp, _, _, _, _⟩ := c
  cases rtp <;> cases rtcp <;> rfl

theorem Omission.defaults_default (o : Omission) : o.defaults {} = {} := by
  simp [Omission.defaults, Interface.anyPort, without]

theorem described_lacks {o : Omission} {v w : Value} {c : Config} (lacks : Lacks o v w)
    (read : described v = some c) : described w = some (o.defaults c) := by
  obtain ⟨mark, mark', leaves⟩ := lacks
  rw [described_object_eq_some_iff] at read ⊢
  rw [← o.defaults_default]
  refine readRecord_leaves o.defaults leaves ?_ ?_ ?_ read mark'
  · intro name known v set gone made c
    obtain ⟨s⟩ := lawful known
    rw [s.change_eq] at made
    obtain ⟨x, -, rfl⟩ := eq_of_map_eq_ok made
    rw [s.restored, if_pos gone]
  · intro name known v w set stays keeps made
    obtain ⟨s⟩ := lawful known
    rw [s.change_eq] at made
    obtain ⟨x, accepted, rfl⟩ := eq_of_map_eq_ok made
    cases keeps with
    | other unknown => exact absurd known unknown
    | inner mark mark' _ leaves needed =>
        refine ⟨s.put (s.without (o.parts name) x), ?_, fun c => ?_⟩
        · rw [s.change_eq, s.leaves leaves needed accepted]
          rfl
        · rw [s.restored, if_neg (by simp [stays])]
  · intro name unknown v w keeps
    cases keeps with
    | other => rfl
    | inner _ _ known => exact absurd known unknown

/-! ## The law -/

/-- **A configuration depends on the recognised members of its document only.**  The document is
the one that the text parses to.  Without members it describes the default, and each section it
has is the one of the configuration.  Neither places nor the order of the members of the document
and of its sections make a difference; members that are not recognised may be left out of an
accepted document; a recognised one that occurs twice is refused; and what is left of an accepted
document without some sections, or without some members that their section does not need,
describes the same configuration but for the defaults in their place. -/
theorem recognised_members_determine :
    (∀ text, (parse text).toOption = (Value.parse text).bind described) ∧
      (∀ mark, described (.object mark []) = some {}) ∧
      (∀ mark members c, described (.object mark members) = some c →
        ∀ key v name, (key, v) ∈ members → key.content = some name → name ∈ sections →
          ∃ set, sectionChange mark name v = .ok set ∧ set c = c) ∧
      (∀ v w : Value, v.bare = w.bare → described v = described w) ∧
      (∀ v w, Rearranged v w → described v = described w) ∧
      (∀ v w c, Lacks .nothing v w → described v = some c → described w = some c) ∧
      (∀ v, Repeats v → described v = none) ∧
      (∀ o v w c, Lacks o v w → described v = some c → described w = some (o.defaults c)) ∧
      ∀ o : Omission, o.defaults {} = {} := by
  refine ⟨toOption_parse, fun mark => rfl, fun mark members c read key v name => ?_,
    fun v w same => ?_, fun v w => described_rearranged, fun v w c lacks read => ?_,
    fun v => described_repeats, fun o v w c => described_lacks, Omission.defaults_default⟩
  · exact fun here named known => described_sets read here named known
  · rw [← described_bare v, same, described_bare w]
  · rw [described_lacks lacks read, Omission.defaults_nothing]

/-- A member of an object. -/
def sampleMember (name : String) (v : Value) : Key × Value :=
  (⟨.start, some name⟩, v)

/-- The members of an interface for datagrams. -/
def sampleDatagrams : List (Key × Value) :=
  [sampleMember "transport" (.string .start (some "udp")),
    sampleMember "listen" (.string .start (some "1.2.3.4:5")),
    sampleMember "mtu" (.number .start ['9'])]

/-- A member of the section for the pool. -/
def sampleCapacity : Key × Value :=
  sampleMember "capacity" (.number .start ['7'])

/-- A document with an interface and the section for the pool. -/
def sampleDocument (datagrams pool : List (Key × Value)) : Value :=
  .object .start [sampleMember "rtp" (.object .start datagrams),
    sampleMember "pool" (.object .start pool)]

/-- The omission of the section for the pool and of one member of an interface. -/
def sampleOmission : Omission :=
  ⟨fun name => name == "pool", fun name field => name == "rtp" && field == "mtu"⟩

/-- What the document describes. -/
def sampleConfig : Config where
  rtp := .udp (.v4 ⟨1, 2, 3, 4⟩ 5) none 9 none
  poolCapacity := 7

theorem recognised_members_determine_of_sample :
    (∃ set, sectionChange .start "pool" (.object .start [sampleCapacity]) = .ok set ∧
      set sampleConfig = sampleConfig) ∧
    described (.object ⟨3, 1⟩ []) = described (.object .start []) ∧
    described (.object .start [sampleMember "pool" (.object .start [sampleCapacity]),
      sampleMember "rtp" (.object .start sampleDatagrams.reverse)]) = some sampleConfig ∧
    described (sampleDocument sampleDatagrams [sampleCapacity]) = some sampleConfig ∧
    described (sampleDocument sampleDatagrams [sampleCapacity, sampleCapacity]) = none ∧
    described (.object .start [sampleMember "rtp" (.object .start (sampleDatagrams.take 2))]) =
      some { rtp := .udp (.v4 ⟨1, 2, 3, 4⟩ 5) none 1500 none } := by
  obtain ⟨-, -, sets, places, order, unrecognised, repeated, omitted, -⟩ :=
    recognised_members_determine
  have plain : described (sampleDocument sampleDatagrams [sampleCapacity]) =
      some sampleConfig := by
    decide +kernel
  refine ⟨sets _ _ _ plain _ _ "pool" (List.mem_cons_of_mem _ List.mem_cons_self) rfl (by decide),
    places _ _ rfl, ?_, ?_, ?_, ?_⟩
  · rw [← plain]
    have swapped := List.Perm.swap (sampleMember "pool" (.object .start [sampleCapacity]))
      (sampleMember "rtp" (.object .start sampleDatagrams)) []
    symm
    refine order _ _ (.intro .start .start swapped (.cons ⟨rfl, .inl rfl⟩
      (.cons ⟨rfl, .inr ⟨"rtp", by decide, rfl, ?_⟩⟩ .nil)))
    exact .members .start .start (List.reverse_perm _).symm
  · refine unrecognised (sampleDocument sampleDatagrams
      [sampleCapacity, sampleMember "colour" (.null .start)]) _ _ (.intro .start .start
        (.keep ⟨rfl, ?_⟩ (.keep ⟨rfl, ?_⟩ .nil))) (by decide +kernel)
    · rintro _ ⟨⟩
      exact ⟨fun _ => rfl, .inner .start .start (by decide)
        (.keep ⟨rfl, fun _ _ => ⟨fun _ => rfl, rfl⟩⟩ (.keep ⟨rfl, fun _ _ => ⟨fun _ => rfl, rfl⟩⟩
          (.keep ⟨rfl, fun _ _ => ⟨fun _ => rfl, rfl⟩⟩ .nil))) fun _ _ => rfl⟩
    · rintro _ ⟨⟩
      refine ⟨fun _ => rfl, .inner .start .start (by decide)
        (.keep ⟨rfl, fun _ _ => ⟨fun _ => rfl, rfl⟩⟩ (.drop ?_ .nil)) fun _ _ => rfl⟩
      rintro _ ⟨⟩
      exact fun impossible => absurd impossible (by decide : ¬ "colour" = "capacity")
  · exact repeated _ (.inner .start .start (List.mem_cons_of_mem _ List.mem_cons_self) rfl
      (by decide) (rfl : "capacity" = "capacity") (by decide))
  · have lacks : Lacks sampleOmission (sampleDocument sampleDatagrams [sampleCapacity])
        (.object .start [sampleMember "rtp" (.object .start (sampleDatagrams.take 2))]) := by
      refine .intro .start .start (.keep ⟨rfl, ?_⟩ (.drop ?_ .nil))
      · rintro _ ⟨⟩
        refine ⟨fun _ => rfl, .inner .start .start (by decide)
          (.keep ⟨rfl, ?_⟩ (.keep ⟨rfl, ?_⟩ (.drop ?_ .nil))) ?_⟩
        · rintro _ ⟨⟩
          exact ⟨fun _ => rfl, rfl⟩
        · rintro _ ⟨⟩
          exact ⟨fun _ => rfl, rfl⟩
        · rintro _ ⟨⟩ -
          rfl
        · rintro _ (rfl | ⟨t, -, rfl⟩)
          · rfl
          · cases t <;> rfl
      · rintro _ ⟨⟩ -
        rfl
    exact (omitted _ _ _ _ lacks plain).trans (by decide)

end MediaTransport.Config
