/-
# MediaTransport.Proofs.Config.Sizes -- the numbers of an accepted configuration fit

A configuration holds its numbers as natural numbers, which have no upper bound.  What a document
can say has one.  A whole number of a document is one of 64 bits with a sign, or of 32 bits
without (`integer_range`), and the sizes of an interface are read off such numbers, so they are
below 2^63.  The numbers of the other sections are cut to 64 bits when they are read
(`saturate_le`).

A record keeps such a bound because each of its fields does (`readRecord_keeps`), in either form
and whatever the order of its members, and a field that is not given has a default that keeps it
as well.  So every configuration that is accepted fits (`fits_of_parse`).
-/
import Mathlib.Algebra.Ring.Int.Defs
import Mathlib.Algebra.Ring.Nat
import MediaTransport.Proofs.Config.Sections

namespace MediaTransport

set_option autoImplicit false

/-! ## Numbers of documents -/

/-- A number that is cut to a bound does not exceed it. -/
theorem Decimal.Binary64.saturate_le (bound : Nat) (x : Decimal.Binary64) :
    x.saturate bound ≤ bound := by
  cases x with
  | finite negative significand exponent =>
      cases negative with
      | true => exact Nat.zero_le bound
      | false => exact Nat.min_le_left _ _
  | infinite negative =>
      cases negative with
      | true => exact Nat.zero_le bound
      | false => exact Nat.le_refl bound
  | nan => exact Nat.zero_le bound

namespace Json5

/-- A whole number of 64 bits with a sign. -/
def InRange (value : Int) : Prop :=
  -2 ^ 63 ≤ value ∧ value < 2 ^ 63

theorem hexNumber_lt {digits : List Char} {value : Nat} (said : hexNumber digits = .ok value) :
    value < 2 ^ 32 := by
  unfold hexNumber at said
  dsimp only at said
  split at said
  · rename_i small
    exact Except.ok.inj said ▸ small
  · cases said

theorem wholeNumber_range {text : List Char} {value : Int}
    (said : wholeNumber text = .ok value) : InRange value := by
  unfold wholeNumber at said
  split at said
  · rename_i digits _
    obtain ⟨n, hex, rfl⟩ := Config.eq_of_map_eq_ok said
    have small := hexNumber_lt hex
    constructor <;> simp only [Int.ofNat_eq_natCast] <;> omega
  · have checked : ∀ found : Int, (if found < -9223372036854775808 ∨ 9223372036854775807 < found
        then Except.error Flaw.integer else .ok found) = .ok value → InRange value := by
      intro found tested
      split at tested
      · cases tested
      · obtain rfl := Except.ok.inj tested
        constructor <;> omega
    dsimp only at said
    split at said
    · cases said
    · exact checked _ said

/-- A document says whole numbers of 64 bits only. -/
theorem integer_range {v : Value} {value : Int} (said : v.content = .ok (.integer value)) :
    InRange value := by
  cases v with
  | number mark text =>
      rw [Value.content, ← toOption_eq_some_iff, toOption_located, toOption_eq_some_iff,
        numberContent] at said
      split at said
      · obtain ⟨n, whole, same⟩ := Config.eq_of_map_eq_ok said
        cases same
        exact wholeNumber_range whole
      · obtain ⟨x, -, other⟩ := Config.eq_of_map_eq_ok said
        cases other
  | string mark content =>
      rw [Value.content, ← toOption_eq_some_iff, toOption_located, toOption_eq_some_iff] at said
      obtain ⟨text, -, other⟩ := Config.eq_of_map_eq_ok said
      cases other
  | array mark items =>
      obtain ⟨contents, -, other⟩ := Config.eq_of_map_eq_ok said
      cases other
  | object mark members =>
      obtain ⟨contents, -, other⟩ := Config.eq_of_map_eq_ok said
      cases other
  | null mark => cases said
  | bool mark b => cases said

/-- Each item of an array is the content of a value. -/
theorem exists_of_mem_itemContents {items : List Value} {contents : List Content}
    (said : itemContents items = .ok contents) {content : Content} (here : content ∈ contents) :
    ∃ v ∈ items, v.content = .ok content := by
  induction items generalizing contents with
  | nil =>
      cases said
      cases here
  | cons item rest ih =>
      rw [← toOption_eq_some_iff] at said
      simp only [itemContents, toOption_bind, toOption_pure, Option.bind_eq_some_iff,
        toOption_eq_some_iff, Option.some.injEq] at said
      obtain ⟨first, one, others, later, rfl⟩ := said
      rcases List.mem_cons.1 here with rfl | there
      · exact ⟨item, List.mem_cons_self, one⟩
      · obtain ⟨v, among, same⟩ := ih later there
        exact ⟨v, List.mem_cons_of_mem item among, same⟩

end Json5

/-! ## Sizes of interfaces -/

/-- The sizes that an interface is configured with. -/
def Interface.sizes : Interface → List Nat
  | .udp _ _ mtu receiveBuffer => mtu :: receiveBuffer.toList
  | .tcp _ _ mtu receiveBuffer sendQueue => mtu :: sendQueue :: receiveBuffer.toList

theorem Interface.mtu_mem_sizes (i : Interface) : i.mtu ∈ i.sizes := by
  cases i <;> exact List.mem_cons_self

namespace Config

open Json5

/-- The sizes among the fields of an interface. -/
def InterfaceFields.sizes (f : InterfaceFields) : List Nat :=
  f.mtu :: f.sendQueue :: f.receiveBuffer.toList

/-- All of some sizes are below 2^63. -/
def Small (sizes : List Nat) : Prop :=
  ∀ size ∈ sizes, size < 2 ^ 63

/-- A content is a whole number of 64 bits, or no whole number. -/
def Sized (content : Content) : Prop :=
  ∀ value, content = .integer value → InRange value

theorem sized_content {v : Value} {content : Content} (said : v.content = .ok content) :
    Sized content := by
  rintro value rfl
  exact integer_range said

theorem readSize_lt {content : Content} {size : Nat} (sized : Sized content)
    (read : readSize content = .ok size) : size < 2 ^ 63 := by
  cases content with
  | integer value =>
      obtain ⟨-, below⟩ := sized value rfl
      rw [readSize] at read
      split at read
      · obtain rfl := Except.ok.inj read
        omega
      · cases read
  | _ => cases read

theorem optional_readSize_lt {content : Content} {size : Option Nat} (sized : Sized content)
    (read : optional readSize content = .ok size) : ∀ n ∈ size, n < 2 ^ 63 := by
  unfold optional at read
  split at read
  · cases read
    exact nofun
  · obtain ⟨m, one, rfl⟩ := eq_of_map_eq_ok read
    rintro n ⟨⟩
    exact readSize_lt sized one

/-- A field of an interface is a size that is small, or leaves the sizes as they are. -/
theorem fieldChange_small {needed field : String} {content : Content}
    {set : InterfaceFields → InterfaceFields} (sized : Sized content)
    (changed : fieldChange needed field content = .ok set) {f : InterfaceFields}
    (small : Small f.sizes) : Small (set f).sizes := by
  obtain ⟨mtu, queue, buffer⟩ : f.mtu < 2 ^ 63 ∧ f.sendQueue < 2 ^ 63 ∧
      ∀ n ∈ f.receiveBuffer, n < 2 ^ 63 := by
    simpa [Small, InterfaceFields.sizes] using small
  suffices parts : (set f).mtu < 2 ^ 63 ∧ (set f).sendQueue < 2 ^ 63 ∧
      ∀ n ∈ (set f).receiveBuffer, n < 2 ^ 63 by
    simpa [Small, InterfaceFields.sizes] using parts
  unfold fieldChange at changed
  dsimp only at changed
  split at changed <;> obtain ⟨x, read, rfl⟩ := eq_of_map_eq_ok changed
  · exact ⟨mtu, queue, buffer⟩
  · exact ⟨mtu, queue, buffer⟩
  · exact ⟨readSize_lt sized read, queue, buffer⟩
  · exact ⟨mtu, queue, optional_readSize_lt sized read⟩
  · exact ⟨mtu, readSize_lt sized read, buffer⟩

/-- The contents that an interface is made of. -/
def Contents.all : Contents → List Content
  | .named members => members.map Prod.snd
  | .positional items => items

theorem readFields_small {t : Transport} {contents : Contents} {f : InterfaceFields}
    (sized : ∀ content ∈ contents.all, Sized content) (read : readFields t contents = .ok f) :
    Small f.sizes := by
  have defaults : Small ({} : InterfaceFields).sizes := by
    simp [Small, InterfaceFields.sizes, Interface.defaultMtu, Interface.defaultSendQueue]
  have each : ∀ content, Sized content → ∀ (record : InterfaceFields) field next,
      Small record.sizes → reading (fieldChange (neededField t)) record field content = .ok next →
        Small next.sizes := by
    intro content one record field next small made
    obtain ⟨set, changed, rfl⟩ := eq_of_map_eq_ok made
    exact fieldChange_small one changed small
  cases contents with
  | named members =>
      exact readMembers_keeps (fun g => Small g.sizes)
        (fun member here => each member.2 (sized _ (List.mem_map_of_mem here))) defaults read
  | positional items =>
      exact readItems_keeps (fun g => Small g.sizes) (fun item here => each item (sized _ here))
        defaults read

theorem small_of_assemble {t : Transport} {f : InterfaceFields} {i : Interface}
    (small : Small f.sizes) (made : assemble t f = some i) : Small i.sizes := by
  intro size here
  apply small
  cases t with
  | udp =>
      obtain ⟨listen, -, rfl⟩ := Option.map_eq_some_iff.1 made
      simp only [Interface.sizes, InterfaceFields.sizes, List.mem_cons] at here ⊢
      exact here.imp_right .inr
  | tcp =>
      obtain ⟨remote, -, rfl⟩ := Option.map_eq_some_iff.1 made
      exact here

theorem exists_of_bind_eq_ok {ε α β : Type} {x : Except ε α} {f : α → Except ε β} {b : β}
    (done : x >>= f = .ok b) : ∃ a, x = .ok a ∧ f a = .ok b := by
  cases x with
  | error e => cases done
  | ok a => exact ⟨a, rfl, done⟩

/-- What is made behind a field that must be there and a check. -/
theorem made_of_needed {needed : Option Net.Address} {missing : Cause} {check : Except Cause Unit}
    {make : Net.Address → Interface} {i : Interface}
    (read : (match needed with
      | none => Except.error missing
      | some address => do
        check
        return make address) = .ok i) : needed.map make = some i := by
  cases needed with
  | none => cases read
  | some address =>
      obtain ⟨-, -, made⟩ := exists_of_bind_eq_ok read
      exact congrArg some (Except.ok.inj made)

/-- An interface is made of its fields. -/
theorem fields_of_interfaceOf {t : Transport} {contents : Contents} {i : Interface}
    (read : interfaceOf t contents = .ok i) :
    ∃ f, readFields t contents = .ok f ∧ assemble t f = some i := by
  cases t with
  | udp =>
      rw [interfaceOf, readInterfaceField_eq] at read
      obtain ⟨f, fields, read⟩ := exists_of_bind_eq_ok read
      exact ⟨f, fields, made_of_needed read⟩
  | tcp =>
      rw [interfaceOf, readInterfaceField_eq] at read
      obtain ⟨f, fields, read⟩ := exists_of_bind_eq_ok read
      exact ⟨f, fields, made_of_needed read⟩

theorem sized_of_mem_contentsOf {members : List (Key × Value)}
    {found : List (Transport ⊕ (String × Content))} (yields : Yields entry members found) :
    ∀ said ∈ contentsOf found, Sized said.2 := by
  intro said here
  obtain ⟨x, among, same⟩ := List.mem_filterMap.1 here
  obtain rfl := Sum.getRight?_eq_some_iff.1 same
  obtain ⟨member, -, one⟩ := yields.exists_of_mem among
  exact sized_content (entry_eq_inr_iff.1 one).2.2

/-- The sizes of an interface are small, in whichever form it is written. -/
theorem readInterface_small {root : Mark} {v : Value} {i : Interface}
    (read : readInterface root v = .ok i) : Small i.sizes := by
  cases v with
  | object mark members =>
      obtain ⟨found, t, f, yields, -, read, made⟩ := readInterface_object_iff.1 read
      refine small_of_assemble (readFields_small ?_ read) made
      intro content here
      obtain ⟨said, among, rfl⟩ := List.mem_map.1 here
      exact sized_of_mem_contentsOf yields said among
  | array mark items =>
      cases items with
      | nil => cases read
      | cons first rest =>
          rw [← toOption_eq_some_iff, toOption_readInterface_array] at read
          simp only [Option.bind_eq_some_iff, toOption_eq_some_iff] at read
          obtain ⟨t, -, contents, said, read⟩ := read
          obtain ⟨f, read, made⟩ := fields_of_interfaceOf read
          refine small_of_assemble (readFields_small ?_ read) made
          intro content here
          obtain ⟨v, -, one⟩ := exists_of_mem_itemContents said here
          exact sized_content one
  | _ =>
      rw [← toOption_eq_some_iff] at read
      simp [readInterface] at read

/-! ## Numbers of the other sections -/

theorem readCount_lt {v : Value} {n : Nat} (read : readCount v = .ok n) : n < 2 ^ 64 := by
  cases v with
  | number mark text =>
      obtain ⟨x, -, rfl⟩ := eq_of_map_eq_ok read
      have capped := x.saturate_le largestCount
      have largest : largestCount = 2 ^ 64 - 1 := by decide
      omega
  | _ => cases read

/-- What holds of a record, and goes on to hold with every field that is read, holds of the
record that a document describes, in either form. -/
theorem readRecord_keeps {σ : Type} (keeps : σ → Prop) {expected : String} {fields : List String}
    {read : σ → String → Value → Except DataError σ}
    (each : ∀ v record field next, keeps record → read record field v = .ok next → keeps next)
    {start result : σ} (holds : keeps start) {v : Value}
    (answer : readRecord expected fields read start v = .ok result) : keeps result := by
  cases v with
  | object mark members =>
      exact readMembers_keeps keeps (fun member _ => each member.2) holds answer
  | array mark items => exact readItems_keeps keeps (fun item _ => each item) holds answer
  | _ =>
      rw [← toOption_eq_some_iff] at answer
      simp [readRecord] at answer

/-- Every number of a configuration fits 64 bits, and a size of an interface leaves one of them
free. -/
structure Fits (c : Config) : Prop where
  sizes : ∀ protocol, Small (c.interface protocol).sizes
  minBackoff : c.minBackoff < 2 ^ 64
  poolCapacity : c.poolCapacity < 2 ^ 64

theorem fits_default : Fits {} := by
  refine ⟨fun protocol => ?_, by decide, by decide⟩
  cases protocol <;>
    simp [Config.interface, Interface.anyPort, Interface.sizes, Small, Interface.defaultMtu]

theorem fits_readSection {root : Mark} {c next : Config} {name : String} {v : Value} (fits : Fits c)
    (read : readSection root c name v = .ok next) : Fits next := by
  obtain ⟨sizes, minBackoff, poolCapacity⟩ := fits
  rw [readSection_eq] at read
  obtain ⟨set, changed, rfl⟩ := eq_of_map_eq_ok read
  unfold sectionChange at changed
  split at changed <;> obtain ⟨x, part, rfl⟩ := eq_of_map_eq_ok changed
  · refine ⟨fun protocol => ?_, minBackoff, poolCapacity⟩
    cases protocol with
    | rtp => exact readInterface_small part
    | rtcp => exact sizes .rtcp
  · refine ⟨fun protocol => ?_, minBackoff, poolCapacity⟩
    cases protocol with
    | rtp => exact sizes .rtp
    | rtcp => exact readInterface_small part
  · refine ⟨sizes, ?_, poolCapacity⟩
    exact readRecord_keeps (· < 2 ^ 64) (fun _ _ _ _ _ => readCount_lt) (by decide) part
  · refine ⟨sizes, minBackoff, ?_⟩
    exact readRecord_keeps (· < 2 ^ 64) (fun _ _ _ _ _ => readCount_lt) (by decide) part
  · exact ⟨sizes, minBackoff, poolCapacity⟩
  · exact ⟨sizes, minBackoff, poolCapacity⟩

/-- Whatever text is accepted, the configuration fits. -/
theorem fits_of_parse {text : String} {c : Config} (accepted : parse text = .ok c) : Fits c := by
  unfold parse at accepted
  cases tree : Value.parse text with
  | none => simp [tree] at accepted
  | some v =>
      simp only [tree] at accepted
      cases read : ofValue v with
      | error e => simp [read, Except.mapError] at accepted
      | ok d =>
          simp only [read, Except.mapError, Except.ok.injEq] at accepted
          subst accepted
          exact readRecord_keeps Fits (fun _ _ _ _ => fits_readSection) fits_default read

end Config

end MediaTransport
