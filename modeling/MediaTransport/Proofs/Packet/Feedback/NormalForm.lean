/-
# MediaTransport.Proofs.Packet.Feedback.NormalForm -- what is read, and what is kept of it

Which packets are read at all is a matter of their size and of two octets (`Readable`).
A message that was read and is written again comes out in one form: version 2 without
padding, a length field that is right, and zeros where a full intra request leaves octets
unused.  Everything else is kept, bit by bit (`Normalizes`), so a packet that has this form
already and ends with its message is the only one that comes out as it went in
(`Canonical`).

The comparison is made octet by octet first (`Rewrites`), where the layouts decide it; the
statements about bits and about canonical packets need no layout any more.
-/
import Mathlib.Data.List.GetD
import Mathlib.Tactic.IntervalCases
import MediaTransport.Packet.Class
import MediaTransport.Proofs.Packet.Feedback.RoundTrip

namespace MediaTransport.Packet.Feedback

set_option autoImplicit false

open Octets

/-! ## Which packets are read -/

/-- Whether a packet is headed as a full intra request. -/
def Requests (bytes : Octets) : Prop :=
  bytes[1]? = some 206 ∧ ∃ first, bytes[0]? = some first ∧ first % 32 = 4

/-- Whether a packet has a message at its front, by its size and its first two octets. -/
structure Readable (bytes : Octets) : Prop where
  header : 12 ≤ bytes.length
  kind : bytes[1]? = some 205 ∨ bytes[1]? = some 206
  entry : Requests bytes → 20 ≤ bytes.length

section Layouts

variable {bytes : Octets} {message : Feedback}

theorem Layout.requests_iff (layout : Layout bytes message) :
    Requests bytes ↔ message.isFir = true := by
  cases layout with
  | @plain kind first a b sender source rest other =>
      rw [isFir_iff]
      constructor
      · rintro ⟨code, octet, atFront, format⟩
        cases atFront
        have payload : kind = .payloadSpecific := by
          cases kind with
          | transportLayer => cases code
          | payloadSpecific => rfl
        exact absurd ⟨payload, format⟩ other
      · rintro ⟨payload, format⟩
        exact absurd ⟨payload, format⟩ other
  | request a b sender unused source sequence r s t rest format =>
      exact ⟨fun _ => rfl, fun _ => ⟨rfl, _, rfl, format⟩⟩

theorem Layout.readable (layout : Layout bytes message) : Readable bytes := by
  have requests := layout.requests_iff
  cases layout with
  | @plain kind first a b sender source rest other =>
      refine ⟨?_, ?_, fun request => ?_⟩
      · simp only [List.length_append, List.length_cons, List.length_nil, length_ofWord32]
        omega
      · cases kind
        · exact .inl rfl
        · exact .inr rfl
      · exact absurd (isFir_iff.1 (requests.1 request)) other
  | request a b sender unused source sequence r s t rest format =>
      refine ⟨?_, .inr rfl, fun _ => ?_⟩ <;>
        simp only [List.length_append, List.length_cons, List.length_nil, length_ofWord32] <;>
        omega

theorem exists_layout (readable : Readable bytes) : ∃ message, Layout bytes message := by
  obtain ⟨header, code, entry⟩ := readable
  rcases bytes with _ | ⟨first, _ | ⟨packetType, _ | ⟨a, _ | ⟨b, body⟩⟩⟩⟩
  case cons.cons.cons.cons =>
    obtain ⟨sender, body, rfl⟩ := @exists_ofWord32_append body (by
      simp only [List.length_cons] at header
      omega)
    obtain ⟨source, body, rfl⟩ := @exists_ofWord32_append body (by
      simp only [List.length_cons, List.length_append, length_ofWord32] at header
      omega)
    obtain ⟨kind, rfl⟩ : ∃ kind : FeedbackKind, packetType = kind.code := by
      rcases code with code | code <;> cases code
      · exact ⟨.transportLayer, rfl⟩
      · exact ⟨.payloadSpecific, rfl⟩
    by_cases request : kind = .payloadSpecific ∧ first % 32 = fullIntra
    · obtain ⟨rfl, format⟩ := request
      have long := entry ⟨rfl, first, rfl, format⟩
      obtain ⟨asked, body, rfl⟩ := @exists_ofWord32_append body (by
        simp only [List.length_cons, List.length_append, length_ofWord32] at long
        omega)
      rcases body with _ | ⟨sequence, _ | ⟨r, _ | ⟨s, _ | ⟨t, rest⟩⟩⟩⟩
      case cons.cons.cons.cons =>
        exact ⟨_, .request a b sender source asked sequence r s t rest format⟩
      all_goals simp at long
    · exact ⟨_, .plain a b sender source body request⟩
  all_goals simp at header

theorem decode_isSome_iff : (decode bytes).isSome = true ↔ Readable bytes := by
  constructor
  · intro read
    obtain ⟨message, decoded⟩ := Option.isSome_iff_exists.1 read
    exact (layout_of_decode decoded).readable
  · intro readable
    obtain ⟨message, layout⟩ := exists_layout readable
    rw [decode_of_layout layout]
    rfl

end Layouts

/-! ## Octet by octet -/

/-- The places that a full intra request has no use for: the media source of the header
and the reserved octets of the entry. -/
def Unused (place : Nat) : Prop :=
  8 ≤ place ∧ place < 12 ∨ 17 ≤ place ∧ place < 20

/-- How the octets of what is written come from those of the packet that was read. -/
structure Rewrites (bytes written : Octets) : Prop where
  fits : written.length ≤ bytes.length
  length_request : Requests bytes → written.length = 20
  length_plain : ¬ Requests bytes → written.length = 12
  first : ∃ old, bytes[0]? = some old ∧ written[0]? = some (128 + old % 32)
  words : written[2]? = some 0 ∧ written[3]? = some (UInt8.ofNat (written.length / 4 - 1))
  zeros : Requests bytes → ∀ place, Unused place → written[place]? = some 0
  same : ∀ place, place < written.length → place ≠ 0 → ¬(2 ≤ place ∧ place < 4) →
    ¬(Requests bytes ∧ Unused place) → written[place]? = bytes[place]?

theorem Layout.rewrites {bytes : Octets} {message : Feedback} (layout : Layout bytes message) :
    Rewrites bytes message.encode := by
  have requests := layout.requests_iff
  have readable := layout.readable
  cases layout with
  | @plain kind first a b sender source rest other =>
      have plain : (create kind first sender source).isFir = false := by
        rw [← Bool.not_eq_true, isFir_iff]
        exact other
      have length : (create kind first sender source).encode.length = 12 :=
        (length_encode _).trans (if_neg (by simp [plain]))
      have written := encode_of_not_isFir plain
      rw [plain] at requests
      refine ⟨?_, fun request => ?_, fun _ => length, ?_, ?_, fun request => ?_, ?_⟩
      · rw [length]
        exact readable.header
      · cases requests.1 request
      · exact ⟨first, rfl, by rw [written]; rfl⟩
      · rw [length, written]
        exact ⟨rfl, rfl⟩
      · cases requests.1 request
      · intro place inside notFirst notWord _
        rw [length] at inside
        have kept : place = 1 ∨ 4 ≤ place ∧ place < 12 := by omega
        rw [written]
        rcases kept with rfl | ⟨low, high⟩
        · rfl
        · interval_cases place <;> rfl
  | @request first a b sender unused source sequence r s t rest format =>
      have length : (fir sender source sequence).encode.length = 20 := length_encode _
      have written := @encode_of_isFir (fir sender source sequence) rfl
      have always := requests.2 rfl
      refine ⟨?_, fun _ => length, fun never => absurd always never, ?_, ?_, ?_, ?_⟩
      · rw [length]
        exact readable.entry always
      · refine ⟨first, rfl, ?_⟩
        rw [written, format]
        rfl
      · rw [length, written]
        exact ⟨rfl, rfl⟩
      · intro _ place unused
        rw [written]
        rcases unused with ⟨low, high⟩ | ⟨low, high⟩ <;> interval_cases place <;> rfl
      · intro place inside notFirst notWord used
        rw [length] at inside
        have kept : place = 1 ∨ 4 ≤ place ∧ place < 8 ∨ 12 ≤ place ∧ place < 17 := by
          have used : ¬ Unused place := fun unused => used ⟨always, unused⟩
          unfold Unused at used
          omega
        rw [written]
        rcases kept with rfl | ⟨low, high⟩ | ⟨low, high⟩
        · rfl
        · interval_cases place <;> rfl
        · interval_cases place <;> rfl

/-! ## Bit by bit -/

/-- A bit of the octet at a place, the least significant one first. -/
def bit (bytes : Octets) (place index : Nat) : Bool :=
  (bytes.getD place 0).toNat.testBit index

/-- The bits that do not depend on what was read: those above the format, the length field
and, in a full intra request, the unused places. -/
def Settled (request : Prop) (place index : Nat) : Prop :=
  place = 0 ∧ 5 ≤ index ∨ 2 ≤ place ∧ place < 4 ∨ request ∧ Unused place

/-- What a packet becomes when its message is read and written again. -/
structure Normalizes (bytes written : Octets) : Prop where
  fits : written.length ≤ bytes.length
  length_request : Requests bytes → written.length = 20
  length_plain : ¬ Requests bytes → written.length = 12
  /-- Version 2 and no padding. -/
  lead : bit written 0 7 = true ∧ bit written 0 6 = false ∧ bit written 0 5 = false
  words : (splitWord16 (written.drop 2)).map UInt16.toNat = some (written.length / 4 - 1)
  zeros : Requests bytes → ∀ place, Unused place → written[place]? = some 0
  kept : ∀ place index, place < written.length → ¬ Settled (Requests bytes) place index →
    bit written place index = bit bytes place index

/-- A packet in normal form that ends with its message. -/
structure Canonical (bytes : Octets) : Prop where
  version : bytes[0]?.map versionOf = some version
  padding : bit bytes 0 5 = false
  words : (splitWord16 (bytes.drop 2)).map UInt16.toNat = some (bytes.length / 4 - 1)
  length_request : Requests bytes → bytes.length = 20
  length_plain : ¬ Requests bytes → bytes.length = 12
  zeros : Requests bytes → ∀ place, Unused place → bytes[place]? = some 0

theorem bit_of_getElem? {bytes : Octets} {place : Nat} {octet : UInt8}
    (found : bytes[place]? = some octet) (index : Nat) :
    bit bytes place index = octet.toNat.testBit index := by
  rw [bit, List.getD_eq_getElem?_getD, found, Option.getD_some]

theorem splitWord16_drop {bytes : Octets} {place : Nat} {a b : UInt8}
    (high : bytes[place]? = some a) (low : bytes[place + 1]? = some b) :
    splitWord16 (bytes.drop place) = some (word16 a b) := by
  obtain ⟨inside, rfl⟩ := List.getElem?_eq_some_iff.1 high
  obtain ⟨inside', rfl⟩ := List.getElem?_eq_some_iff.1 low
  rw [List.drop_eq_getElem_cons inside, List.drop_eq_getElem_cons inside']
  rfl

/-- The octets of a small word at the third place. -/
theorem getElem?_of_word {bytes : Octets} {n : Nat} (small : n < 256)
    (word : (splitWord16 (bytes.drop 2)).map UInt16.toNat = some n) :
    bytes[2]? = some 0 ∧ bytes[3]? = some (UInt8.ofNat n) := by
  have second : bytes[2]? = (bytes.drop 2)[0]? := by rw [List.getElem?_drop]
  have third : bytes[3]? = (bytes.drop 2)[1]? := by rw [List.getElem?_drop]
  rw [second, third]
  clear second third
  generalize bytes.drop 2 = behind at word ⊢
  rcases behind with _ | ⟨a, _ | ⟨b, rest⟩⟩
  case cons.cons =>
    have value : a.toNat * 256 + b.toNat = n := by
      rw [← toNat_word16]
      exact Option.some.inj word
    have low := b.toNat_lt
    refine ⟨congrArg some (UInt8.toNat_inj.1 ?_), congrArg some (UInt8.toNat_inj.1 ?_)⟩
    · simp only [UInt8.reduceToNat]
      omega
    · rw [UInt8.toNat_ofNat']
      omega
  all_goals cases word

/-- The bits of the first octet that is written: the format below, 100 above. -/
theorem testBit_lead (octet : UInt8) (index : Nat) :
    (128 + octet % 32).toNat.testBit index =
      if index < 5 then octet.toNat.testBit index else (4).testBit (index - 5) := by
  have low : octet.toNat % 2 ^ 5 < 2 ^ 5 := Nat.mod_lt _ (by decide)
  have value : (128 + octet % 32).toNat = 2 ^ 5 * 4 + octet.toNat % 2 ^ 5 := by
    simp only [UInt8.toNat_add, UInt8.toNat_mod, UInt8.reduceToNat]
    omega
  rw [value, Nat.testBit_two_pow_mul_add 4 low, Nat.testBit_mod_two_pow]
  split
  · rename_i inside
    simp [inside]
  · rfl

namespace Rewrites

variable {bytes written : Octets}

theorem length_cases (rewrites : Rewrites bytes written) :
    Requests bytes ∧ written.length = 20 ∨ ¬ Requests bytes ∧ written.length = 12 := by
  by_cases request : Requests bytes
  · exact .inl ⟨request, rewrites.length_request request⟩
  · exact .inr ⟨request, rewrites.length_plain request⟩

theorem normalizes (rewrites : Rewrites bytes written) : Normalizes bytes written := by
  obtain ⟨old, found, made⟩ := rewrites.first
  refine ⟨rewrites.fits, rewrites.length_request, rewrites.length_plain, ?_, ?_,
    rewrites.zeros, ?_⟩
  · simp only [bit_of_getElem? made, testBit_lead]
    exact ⟨rfl, rfl, rfl⟩
  · obtain ⟨high, low⟩ := rewrites.words
    rw [splitWord16_drop high low, Option.map_some, toNat_word16, UInt8.toNat_ofNat']
    rcases rewrites.length_cases with ⟨-, length⟩ | ⟨-, length⟩ <;> rw [length] <;> rfl
  · intro place index inside free
    unfold Settled at free
    by_cases atFront : place = 0
    · subst atFront
      have low : index < 5 := by omega
      rw [bit_of_getElem? made, bit_of_getElem? found, testBit_lead, if_pos low]
    · have same := rewrites.same place inside atFront (fun word => free (.inr (.inl word)))
        fun unused => free (.inr (.inr unused))
      simp only [bit, List.getD_eq_getElem?_getD, same]

/-- What is written in place of the first octet of a canonical packet is that octet. -/
theorem lead_of_canonical {octet : UInt8} (version : versionOf octet = version)
    (padding : octet.toNat.testBit 5 = false) : 128 + octet % 32 = octet := by
  have small := octet.toNat_lt
  rw [Nat.testBit_eq_decide_div_mod_eq, decide_eq_false_iff_not] at padding
  simp only [versionOf, Packet.version] at version
  apply UInt8.toNat_inj.1
  simp only [UInt8.toNat_add, UInt8.toNat_mod, UInt8.reduceToNat]
  omega

theorem eq_of_canonical (rewrites : Rewrites bytes written) (canonical : Canonical bytes) :
    written = bytes := by
  have length : written.length = bytes.length := by
    rcases rewrites.length_cases with ⟨request, length⟩ | ⟨other, length⟩
    · rw [length, canonical.length_request request]
    · rw [length, canonical.length_plain other]
  apply List.ext_getElem?
  intro place
  by_cases inside : place < written.length
  · by_cases atFront : place = 0
    · subst atFront
      obtain ⟨old, found, made⟩ := rewrites.first
      have version : versionOf old = version := by
        simpa [found] using canonical.version
      have padding := canonical.padding
      rw [bit_of_getElem? found] at padding
      rw [made, found, lead_of_canonical version padding]
    by_cases word : 2 ≤ place ∧ place < 4
    · have small : bytes.length / 4 - 1 < 256 := by
        rcases rewrites.length_cases with ⟨-, size⟩ | ⟨-, size⟩ <;> omega
      obtain ⟨high, low⟩ := getElem?_of_word small canonical.words
      obtain ⟨high', low'⟩ := rewrites.words
      rw [length] at low'
      obtain rfl | rfl : place = 2 ∨ place = 3 := by omega
      · rw [high, high']
      · rw [low, low']
    by_cases unused : Requests bytes ∧ Unused place
    · rw [rewrites.zeros unused.1 place unused.2, canonical.zeros unused.1 place unused.2]
    · exact rewrites.same place inside atFront word unused
  · rw [List.getElem?_eq_none (Nat.le_of_not_lt inside),
      List.getElem?_eq_none (length ▸ Nat.le_of_not_lt inside)]

theorem canonical_of_eq (rewrites : Rewrites bytes bytes) : Canonical bytes := by
  have normalizes := rewrites.normalizes
  obtain ⟨old, found, made⟩ := rewrites.first
  refine ⟨?_, normalizes.lead.2.2, normalizes.words, rewrites.length_request,
    rewrites.length_plain, rewrites.zeros⟩
  have fixed : 128 + old % 32 = old := Option.some.inj (made.symm.trans found)
  have value := congrArg UInt8.toNat fixed
  simp only [UInt8.toNat_add, UInt8.toNat_mod, UInt8.reduceToNat] at value
  rw [found, Option.map_some, Option.some.injEq, versionOf, version]
  omega

end Rewrites

/-- **Reading and writing again puts a packet into normal form.**  Which packets are read
is settled by their size and their first two octets.  What is written for a message that
was read differs from the packet only in the settled bits, and not at all exactly if the
packet is canonical. -/
theorem decode_normalizes (bytes : Octets) :
    ((decode bytes).isSome = true ↔ Readable bytes) ∧
      ∀ message, decode bytes = some message →
        Normalizes bytes message.encode ∧ (message.encode = bytes ↔ Canonical bytes) := by
  refine ⟨decode_isSome_iff, fun message decoded => ?_⟩
  have rewrites := (layout_of_decode decoded).rewrites
  refine ⟨rewrites.normalizes, fun same => ?_, rewrites.eq_of_canonical⟩
  rw [same] at rewrites
  exact rewrites.canonical_of_eq

/-- Version, padding, length, unused octets and what comes behind are settled. -/
example :
    (decode [0x64, 206, 9, 9, 0, 0, 0, 1, 7, 7, 7, 7, 0, 0, 0, 2, 3, 8, 8, 8, 5]).map encode =
      some [0x84, 206, 0, 4, 0, 0, 0, 1, 0, 0, 0, 0, 0, 0, 0, 2, 3, 0, 0, 0] := by
  decide

end MediaTransport.Packet.Feedback
