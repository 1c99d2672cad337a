/-
# MediaTransport.Proofs.Packet.Feedback.RoundTrip -- what is written is read back

A feedback message has one of two layouts on the wire, that of a full intra request and
that of all other messages.  `Layout` states both, with the octets that a reader passes
over left open, and `decode` reads exactly these (`decode_eq_some_iff`); what else is
known of reading and writing comes from this one statement.

What `encode` writes is laid out as the message says, whatever comes behind it, so
`decode` gives the message back.  The sequence number comes back too: only a full intra
request has one, and its layout has a place for it.
-/
import MediaTransport.Packet.Feedback

namespace MediaTransport

set_option autoImplicit false

namespace Packet

theorem FeedbackKind.ofCode?_eq_some_iff {packetType : UInt8} {kind : FeedbackKind} :
    ofCode? packetType = some kind ↔ packetType = kind.code := by
  unfold ofCode?
  constructor
  · intro found
    split at found
    · cases found; assumption
    · split at found
      · cases found; assumption
      · cases found
  · rintro rfl
    cases kind <;> rfl

namespace Feedback

open Octets

/-! ## Layouts -/

/-- How messages lie at the front of a packet. -/
inductive Layout : Octets → Feedback → Prop where
  /-- The common header alone. -/
  | plain {kind : FeedbackKind} {first : UInt8} (a b : UInt8) (sender source : UInt32)
      (rest : Octets) (other : ¬(kind = .payloadSpecific ∧ first % 32 = fullIntra)) :
      Layout ([first, kind.code, a, b] ++ (ofWord32 sender ++ (ofWord32 source ++ rest)))
        (create kind first sender source)
  /-- A full intra request: the header, whose media source is passed over, and an entry. -/
  | request {first : UInt8} (a b : UInt8) (sender unused source : UInt32)
      (sequence r s t : UInt8) (rest : Octets) (format : first % 32 = fullIntra) :
      Layout
        ([first, FeedbackKind.payloadSpecific.code, a, b] ++ (ofWord32 sender ++
          (ofWord32 unused ++ (ofWord32 source ++ sequence :: r :: s :: t :: rest))))
        (fir sender source sequence)

/-- What decoding a packet of at least four octets comes down to. -/
theorem decode_cons (first packetType a b : UInt8) (body : Octets) :
    decode (first :: packetType :: a :: b :: body) =
      (FeedbackKind.ofCode? packetType).bind fun kind =>
        match splitWord32 body, splitWord32 (body.drop 4) with
        | some sender, some source =>
          if kind = .payloadSpecific ∧ first % 32 = fullIntra then
            match splitWord32 (body.drop 8), body.drop 12 with
            | some asked, sequence :: _ :: _ :: _ :: _ => some (fir sender asked sequence)
            | _, _ => none
          else some (create kind first sender source)
        | _, _ => none := rfl

theorem decode_of_layout {bytes : Octets} {message : Feedback} (layout : Layout bytes message) :
    decode bytes = some message := by
  cases layout with
  | @plain kind first a b sender source rest other =>
      have known := FeedbackKind.ofCode?_eq_some_iff.2 (rfl : kind.code = kind.code)
      have from_ : splitWord32 (ofWord32 sender ++ (ofWord32 source ++ rest)) = some sender :=
        splitWord32_ofWord32 _ _
      have about : splitWord32 ((ofWord32 sender ++ (ofWord32 source ++ rest)).drop 4) =
          some source :=
        splitWord32_ofWord32 source rest
      simp only [List.cons_append, List.nil_append, decode_cons, known, Option.bind_some, from_,
        about, if_neg other]
  | @request first a b sender unused source sequence r s t rest format =>
      let behind := ofWord32 source ++ sequence :: r :: s :: t :: rest
      have known : FeedbackKind.ofCode? FeedbackKind.payloadSpecific.code =
          some .payloadSpecific := rfl
      have from_ : splitWord32 (ofWord32 sender ++ (ofWord32 unused ++ behind)) = some sender :=
        splitWord32_ofWord32 _ _
      have passed : splitWord32 ((ofWord32 sender ++ (ofWord32 unused ++ behind)).drop 4) =
          some unused :=
        splitWord32_ofWord32 _ _
      have asked : splitWord32 ((ofWord32 sender ++ (ofWord32 unused ++ behind)).drop 8) =
          some source :=
        splitWord32_ofWord32 _ _
      have entry : (ofWord32 sender ++ (ofWord32 unused ++ behind)).drop 12 =
          sequence :: r :: s :: t :: rest := rfl
      simp only [List.cons_append, List.nil_append, decode_cons, known, Option.bind_some, from_,
        passed, asked, entry, format, behind, and_self, if_true]

theorem layout_of_decode {bytes : Octets} {message : Feedback}
    (decoded : decode bytes = some message) : Layout bytes message := by
  rcases bytes with _ | ⟨first, _ | ⟨packetType, _ | ⟨a, _ | ⟨b, body⟩⟩⟩⟩
  case cons.cons.cons.cons =>
    rw [decode_cons, Option.bind_eq_some_iff] at decoded
    obtain ⟨kind, known, read⟩ := decoded
    obtain rfl := FeedbackKind.ofCode?_eq_some_iff.1 known
    split at read
    · rename_i sender source from_ about
      obtain ⟨tail, rfl⟩ := splitWord32_eq_some_iff.1 from_
      obtain ⟨tail, rfl⟩ : ∃ rest, tail = ofWord32 source ++ rest :=
        splitWord32_eq_some_iff.1 about
      split at read
      · rename_i request
        obtain ⟨rfl, format⟩ := request
        split at read
        · rename_i asked sequence r s t rest source_ entry
          obtain ⟨tail, rfl⟩ : ∃ rest, tail = ofWord32 asked ++ rest :=
            splitWord32_eq_some_iff.1 source_
          have entry : tail = sequence :: r :: s :: t :: rest := entry
          subst entry
          cases read
          exact .request a b sender source asked sequence r s t rest format
        · cases read
      · rename_i other
        cases read
        exact .plain a b sender source tail other
    · cases read
  all_goals cases decoded

/-- Decoding reads the two layouts and nothing else. -/
theorem decode_eq_some_iff {bytes : Octets} {message : Feedback} :
    decode bytes = some message ↔ Layout bytes message :=
  ⟨layout_of_decode, decode_of_layout⟩

/-! ## Messages -/

attribute [ext] Feedback

/-- The first octet of what is written carries the format in its low five bits. -/
theorem low_first (message : Feedback) : (128 + message.format) % 32 = message.format := by
  have small := message.format_lt
  apply UInt8.toNat_inj.1
  simp only [UInt8.toNat_mod, UInt8.toNat_add, UInt8.reduceToNat]
  omega

theorem isFir_iff {message : Feedback} :
    message.isFir = true ↔ message.kind = .payloadSpecific ∧ message.format = fullIntra := by
  simp [isFir]

theorem sequence_of_not_isFir {message : Feedback} (other : message.isFir = false) :
    message.sequence = 0 :=
  message.sequence_eq fun fir => by simp [isFir_iff.2 fir] at other

theorem eq_fir {message : Feedback} (fir : message.isFir = true) :
    message = .fir message.sender message.source message.sequence := by
  obtain ⟨kind, format⟩ := isFir_iff.1 fir
  ext1
  · exact kind
  · exact format
  all_goals rfl

theorem eq_create {message : Feedback} (other : message.isFir = false) {first : UInt8}
    (low : first % 32 = message.format) :
    message = .create message.kind first message.sender message.source := by
  ext1
  · rfl
  · exact low.symm
  · rfl
  · rfl
  · exact sequence_of_not_isFir other

/-! ## Writing -/

theorem encode_of_isFir {message : Feedback} (fir : message.isFir = true) :
    message.encode = [128 + message.format, FeedbackKind.payloadSpecific.code, 0, 4] ++
      (ofWord32 message.sender ++ (ofWord32 0 ++
        (ofWord32 message.source ++ [message.sequence, 0, 0, 0]))) := by
  have size : message.size = 20 := if_pos fir
  have kind := (isFir_iff.1 fir).1
  simp only [encode, size, fir, kind, if_true, List.append_assoc]
  rfl

theorem encode_of_not_isFir {message : Feedback} (other : message.isFir = false) :
    message.encode = [128 + message.format, message.kind.code, 0, 2] ++
      (ofWord32 message.sender ++ ofWord32 message.source) := by
  have size : message.size = 12 := if_neg (by simp [other])
  simp only [encode, size, other, Bool.false_eq_true, if_false, List.append_assoc]
  rfl

theorem length_encode (message : Feedback) : message.encode.length = message.size := by
  cases fir : message.isFir with
  | true => simp [encode_of_isFir fir, size, fir, headerSize, entrySize]
  | false => simp [encode_of_not_isFir fir, size, fir, headerSize]

/-- What is written is laid out as the message says, whatever comes behind it. -/
theorem layout_encode (message : Feedback) (rest : Octets) :
    Layout (message.encode ++ rest) message := by
  have low := low_first message
  cases fir : message.isFir with
  | true =>
      have written := encode_of_isFir fir
      rw [written]
      conv => arg 2; rw [eq_fir fir]
      simp only [List.append_assoc]
      exact .request 0 4 message.sender 0 message.source message.sequence 0 0 0 rest
        (low.trans (isFir_iff.1 fir).2)
  | false =>
      have other : ¬(message.kind = .payloadSpecific ∧
          (128 + message.format) % 32 = fullIntra) := by
        rw [low, ← isFir_iff]
        simp [fir]
      rw [encode_of_not_isFir fir]
      conv => arg 2; rw [eq_create fir low]
      simp only [List.append_assoc]
      exact .plain 0 2 message.sender message.source rest other

theorem encodeInto_eq (buffer : Octets) (message : Feedback) :
    encodeInto buffer message = message.encode := by
  simp [encodeInto]

/-- **Reading undoes writing.**  A message is one that was created or a full intra request;
its format has five bits, and it has a sequence number only if it is such a request.
Writing it leaves as many octets as it has in any buffer, the same ones whatever was there
before, and from these it is read back, whatever comes behind them. -/
theorem decode_encodeInto (message : Feedback) (buffer rest : Octets) :
    ((∃ kind format sender source, message = create kind format sender source) ∨
        ∃ sender source sequence, message = fir sender source sequence) ∧
      message.format.toNat < 32 ∧ (message.isFir = false → message.sequence = 0) ∧
      (encodeInto buffer message).length = message.size ∧
      encodeInto buffer message = encodeInto [] message ∧
      decode (encodeInto buffer message ++ rest) = some message := by
  refine ⟨?_, message.format_lt, sequence_of_not_isFir, ?_, ?_, ?_⟩
  · cases fir : message.isFir with
    | true => exact .inr ⟨_, _, _, eq_fir fir⟩
    | false => exact .inl ⟨_, _, _, _, eq_create fir (low_first message)⟩
  · rw [encodeInto_eq, length_encode]
  · rw [encodeInto_eq, encodeInto_eq]
  · rw [encodeInto_eq]
    exact decode_of_layout (layout_encode message rest)

end Feedback

end Packet

end MediaTransport
