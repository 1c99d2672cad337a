/-
# MediaTransport.Proofs.Packet.Header -- the fields tile the header

Each reader of the header looks at the first so many octets of a packet: it finds its field
as soon as they are all there, and what comes behind them does not matter (`Needs`).

The five fields put together are the octets from the second to the twelfth, one behind the
other and none of them twice.  So a header can carry any fields (`carries_octets`), it carries
them only in this way (`carries_iff`), and two packets whose headers are complete have the
same fields if these octets are the same (`agree_iff`).

The classifier looks at the second octet as a whole.  The packet types of control traffic are
those in which the marker is set and the payload type is between 72 and 83
(`isControlType_iff`), which is why no media packet has these two at once.
-/
import MediaTransport.Packet.Class
import MediaTransport.Packet.Header

namespace MediaTransport.Packet.Header

set_option autoImplicit false

open Octets

/-! ## What a reader needs -/

/-- A reader that looks at the first octets of a packet and needs all of them. -/
structure Needs {α : Type} (read : Octets → Option α) (needed : Nat) : Prop where
  isSome_iff (bytes : Octets) : (read bytes).isSome = true ↔ needed ≤ bytes.length
  append {bytes : Octets} {value : α} (found : read bytes = some value) (more : Octets) :
    read (bytes ++ more) = some value

section Readers

variable {α : Type}

theorem needs_octet (place : Nat) (field : UInt8 → α) :
    Needs (fun bytes => bytes[place]?.map field) (place + 1) := by
  constructor
  · intro bytes
    show (bytes[place]?.map field).isSome = true ↔ place < bytes.length
    rw [Option.isSome_map, isSome_getElem?]
  · intro bytes value found more
    obtain ⟨octet, here, rfl⟩ := Option.map_eq_some_iff.1 found
    have inside : place < bytes.length := (List.getElem?_eq_some_iff.1 here).1
    rw [List.getElem?_append_left inside, here]
    rfl

theorem needs_splitWord16 : Needs splitWord16 2 := by
  constructor
  · intro bytes
    rcases bytes with _ | ⟨a, _ | ⟨b, rest⟩⟩ <;> simp [splitWord16]
  · intro bytes word found more
    rcases bytes with _ | ⟨a, _ | ⟨b, rest⟩⟩ <;> cases found
    rfl

theorem needs_splitWord32 : Needs splitWord32 4 := by
  constructor
  · intro bytes
    rcases bytes with _ | ⟨a, _ | ⟨b, _ | ⟨c, _ | ⟨d, rest⟩⟩⟩⟩ <;> simp [splitWord32]
  · intro bytes word found more
    rcases bytes with _ | ⟨a, _ | ⟨b, _ | ⟨c, _ | ⟨d, rest⟩⟩⟩⟩ <;> cases found
    rfl

/-- A reader behind some octets needs these as well. -/
theorem Needs.drop {read : Octets → Option α} {needed : Nat} (needs : Needs read needed)
    (positive : 0 < needed) (place : Nat) :
    Needs (fun bytes => read (bytes.drop place)) (place + needed) := by
  constructor
  · intro bytes
    rw [needs.isSome_iff, List.length_drop]
    omega
  · intro bytes value found more
    show read ((bytes ++ more).drop place) = some value
    rw [List.drop_append]
    exact needs.append found _

theorem needs_marker : Needs marker 2 :=
  needs_octet 1 _

theorem needs_payloadType : Needs payloadType 2 :=
  needs_octet 1 _

theorem needs_sequenceNumber : Needs sequenceNumber 4 :=
  needs_splitWord16.drop (by decide) 2

theorem needs_timestamp : Needs timestamp 8 :=
  needs_splitWord32.drop (by decide) 4

theorem needs_ssrc : Needs ssrc 12 :=
  needs_splitWord32.drop (by decide) 8

end Readers

/-! ## Fields and octets -/

/-- The fields of a header. -/
@[ext] structure Fields where
  marker : Bool
  payloadType : Nat
  sequenceNumber : UInt16
  timestamp : UInt32
  ssrc : UInt32
  payloadType_lt : payloadType < 128

/-- The second octet: the payload type below the marker. -/
def Fields.second (fields : Fields) : UInt8 :=
  UInt8.ofNat ((if fields.marker then 128 else 0) + fields.payloadType)

/-- The fields put together, in the order in which they are sent. -/
def Fields.octets (fields : Fields) : Octets :=
  fields.second :: (ofWord16 fields.sequenceNumber ++
    (ofWord32 fields.timestamp ++ ofWord32 fields.ssrc))

@[simp] theorem Fields.length_octets (fields : Fields) : fields.octets.length = 11 := rfl

theorem Fields.toNat_second (fields : Fields) :
    fields.second.toNat = (if fields.marker then 128 else 0) + fields.payloadType := by
  have small := fields.payloadType_lt
  rw [second, UInt8.toNat_ofNat']
  split <;> omega

/-- A packet in which the readers find these fields. -/
structure Carries (bytes : Octets) (fields : Fields) : Prop where
  marker : marker bytes = some fields.marker
  payloadType : payloadType bytes = some fields.payloadType
  sequenceNumber : sequenceNumber bytes = some fields.sequenceNumber
  timestamp : timestamp bytes = some fields.timestamp
  ssrc : ssrc bytes = some fields.ssrc

/-- Two packets in which the readers find the same. -/
structure Agree (bytes other : Octets) : Prop where
  marker : marker bytes = marker other
  payloadType : payloadType bytes = payloadType other
  sequenceNumber : sequenceNumber bytes = sequenceNumber other
  timestamp : timestamp bytes = timestamp other
  ssrc : ssrc bytes = ssrc other

/-- Any fields are read back from where they were put. -/
theorem carries_octets (first : UInt8) (fields : Fields) (rest : Octets) :
    Carries (first :: (fields.octets ++ rest)) fields := by
  have second := fields.toNat_second
  have small := fields.payloadType_lt
  constructor
  · show some (decide (128 ≤ fields.second.toNat)) = some fields.marker
    rw [second]
    cases fields.marker <;> simp [small]
  · show some (fields.second.toNat % 128) = some fields.payloadType
    rw [second]
    cases fields.marker <;> simp [Nat.mod_eq_of_lt small]
  · exact splitWord16_ofWord16 fields.sequenceNumber _
  · exact splitWord32_ofWord32 fields.timestamp (ofWord32 fields.ssrc ++ rest)
  · exact splitWord32_ofWord32 fields.ssrc rest

/-- A complete header is made of some fields, behind its first octet. -/
theorem exists_octets {bytes : Octets} (complete : size ≤ bytes.length) :
    ∃ first rest, ∃ fields : Fields, bytes = first :: (fields.octets ++ rest) := by
  unfold size at complete
  rcases bytes with _ | ⟨first, _ | ⟨second, tail⟩⟩
  case cons.cons =>
    simp only [List.length_cons] at complete
    obtain ⟨sequenceNumber, tail, rfl⟩ := @exists_ofWord16_append tail (by omega)
    simp only [List.length_append, length_ofWord16] at complete
    obtain ⟨timestamp, tail, rfl⟩ := @exists_ofWord32_append tail (by omega)
    simp only [List.length_append, length_ofWord32] at complete
    obtain ⟨ssrc, rest, rfl⟩ := @exists_ofWord32_append tail (by omega)
    let fields : Fields :=
      { marker := decide (128 ≤ second.toNat), payloadType := second.toNat % 128,
        sequenceNumber, timestamp, ssrc, payloadType_lt := Nat.mod_lt _ (by decide) }
    have whole : fields.second = second := by
      have small := second.toNat_lt
      apply UInt8.toNat_inj.1
      rw [fields.toNat_second]
      simp only [fields, decide_eq_true_eq]
      split <;> omega
    refine ⟨first, rest, fields, ?_⟩
    rw [Fields.octets, whole]
    rfl
  all_goals simp at complete

theorem Carries.unique {bytes : Octets} {fields others : Fields} (carries : Carries bytes fields)
    (also : Carries bytes others) : fields = others := by
  ext1
  · exact Option.some.inj (carries.marker.symm.trans also.marker)
  · exact Option.some.inj (carries.payloadType.symm.trans also.payloadType)
  · exact Option.some.inj (carries.sequenceNumber.symm.trans also.sequenceNumber)
  · exact Option.some.inj (carries.timestamp.symm.trans also.timestamp)
  · exact Option.some.inj (carries.ssrc.symm.trans also.ssrc)

/-- The header of a packet carries the fields that are put together behind its first octet, and
no others. -/
theorem carries_iff {bytes : Octets} {fields : Fields} :
    Carries bytes fields ↔ ∃ first rest, bytes = first :: (fields.octets ++ rest) := by
  constructor
  · intro carries
    have complete : size ≤ bytes.length :=
      (needs_ssrc.isSome_iff bytes).1 (Option.isSome_of_eq_some carries.ssrc)
    obtain ⟨first, rest, others, rfl⟩ := exists_octets complete
    obtain rfl := carries.unique (carries_octets first others rest)
    exact ⟨first, rest, rfl⟩
  · rintro ⟨first, rest, rfl⟩
    exact carries_octets first fields rest

/-- The octets of a packet that belong to the fields. -/
theorem octets_of_carries {bytes : Octets} {fields : Fields} (carries : Carries bytes fields) :
    fields.octets = (bytes.drop 1).take 11 := by
  obtain ⟨first, rest, rfl⟩ := carries_iff.1 carries
  exact (List.take_left' fields.length_octets).symm

theorem exists_carries {bytes : Octets} (complete : size ≤ bytes.length) :
    ∃ fields, Carries bytes fields := by
  obtain ⟨first, rest, fields, made⟩ := exists_octets complete
  exact ⟨fields, carries_iff.2 ⟨first, rest, made⟩⟩

theorem carries_iff_octets {bytes : Octets} (complete : size ≤ bytes.length) {fields : Fields} :
    Carries bytes fields ↔ fields.octets = (bytes.drop 1).take 11 := by
  constructor
  · exact octets_of_carries
  · intro same
    rcases bytes with _ | ⟨first, tail⟩
    · simp [size] at complete
    · refine carries_iff.2 ⟨first, tail.drop 11, ?_⟩
      rw [same]
      exact congrArg (first :: ·) (List.take_append_drop 11 tail).symm

theorem Carries.agree {bytes other : Octets} {fields : Fields} (carries : Carries bytes fields)
    (also : Carries other fields) : Agree bytes other where
  marker := carries.marker.trans also.marker.symm
  payloadType := carries.payloadType.trans also.payloadType.symm
  sequenceNumber := carries.sequenceNumber.trans also.sequenceNumber.symm
  timestamp := carries.timestamp.trans also.timestamp.symm
  ssrc := carries.ssrc.trans also.ssrc.symm

theorem Agree.carries {bytes other : Octets} {fields : Fields} (agree : Agree bytes other)
    (carries : Carries bytes fields) : Carries other fields where
  marker := agree.marker.symm.trans carries.marker
  payloadType := agree.payloadType.symm.trans carries.payloadType
  sequenceNumber := agree.sequenceNumber.symm.trans carries.sequenceNumber
  timestamp := agree.timestamp.symm.trans carries.timestamp
  ssrc := agree.ssrc.symm.trans carries.ssrc

/-- Packets with complete headers have the same fields if they have the same octets there. -/
theorem agree_iff {bytes other : Octets} (complete : size ≤ bytes.length)
    (complete' : size ≤ other.length) :
    Agree bytes other ↔ (bytes.drop 1).take 11 = (other.drop 1).take 11 := by
  obtain ⟨fields, carries⟩ := exists_carries complete
  rw [← octets_of_carries carries, ← carries_iff_octets complete']
  constructor
  · intro agree
    exact agree.carries carries
  · intro also
    exact carries.agree also

/-! ## The classifier -/

/-- The packet types of control traffic, as marker and payload type. -/
theorem isControlType_iff (second : UInt8) :
    isControlType second = true ↔
      128 ≤ second.toNat ∧ 72 ≤ second.toNat % 128 ∧ second.toNat % 128 ≤ 83 := by
  have small := second.toNat_lt
  simp only [isControlType, Bool.and_eq_true, decide_eq_true_eq, UInt8.le_iff_toNat_le,
    UInt8.reduceToNat]
  omega

/-- Of the packets of the right version, those are control traffic that have the marker and a
payload type from 72 to 83. -/
theorem classify_eq_rtcp_iff {bytes : Octets} (lead : leadSize ≤ bytes.length)
    (current : bytes[0]?.map versionOf = some version) :
    classify bytes = .rtcp ↔
      marker bytes = some true ∧ ∃ p, payloadType bytes = some p ∧ 72 ≤ p ∧ p ≤ 83 := by
  rcases bytes with _ | ⟨first, _ | ⟨second, _ | ⟨a, _ | ⟨b, rest⟩⟩⟩⟩
  case cons.cons.cons.cons =>
    have current : versionOf first = version := Option.some.inj current
    have types := isControlType_iff second
    have whole : classify (first :: second :: a :: b :: rest) =
        if isControlType second then .rtcp else .rtp := if_pos current
    rw [whole]
    simp [marker, payloadType, ← types]
  all_goals simp [leadSize] at lead

theorem lead_of_classify {bytes : Octets} (media : classify bytes = .rtp) :
    leadSize ≤ bytes.length := by
  rcases bytes with _ | ⟨first, _ | ⟨second, _ | ⟨a, _ | ⟨b, rest⟩⟩⟩⟩
  case cons.cons.cons.cons => exact Nat.le_add_left 4 rest.length
  all_goals cases media

end MediaTransport.Packet.Header
