/-
# MediaTransport.Proofs.Packet.Feedback.Demultiplexing -- feedback is control traffic

Two readers look at the front of a packet, and neither knows of the other.  The classifier wants
four octets, version 2 and a packet type from 200 to 211; the decoder wants twelve octets or
twenty and one of two packet types, and looks at no version.  What has a message at its front
has one of these types (`Layout.lead`), so all that is left to the classifier is the version
(`classify_of_layout`).

A message that is written has version 2 and is thus control traffic to every filter
(`isControl_encodeInto`); what is read without it is of no protocol.  Neither is ever a media
packet, so a stream for media returns no packet that the decoder would take for feedback
(`received_undecodable`).
-/
import MediaTransport.Proofs.Connector.Traffic
import MediaTransport.Proofs.Packet.Feedback.NormalForm

namespace MediaTransport

set_option autoImplicit false

namespace Packet.Feedback

open Octets

/-! ## What the classifier makes of feedback -/

/-- Both packet types of feedback are among those of control traffic. -/
theorem isControlType_code (kind : FeedbackKind) : isControlType kind.code = true := by
  cases kind <;> decide

/-- The classes that are left for a packet of a control type, by its first octet. -/
def classOf (first : UInt8) : Class :=
  if versionOf first = version then .rtcp else .rejected (.badVersion (versionOf first))

theorem classify_control {first second : UInt8} (control : isControlType second = true)
    (a b : UInt8) (rest : Octets) :
    classify (first :: second :: a :: b :: rest) = classOf first := by
  by_cases current : versionOf first = version <;> simp [classify, classOf, current, control]

section Layouts

variable {bytes : Octets} {message : Feedback}

/-- What both layouts begin with. -/
theorem Layout.lead (layout : Layout bytes message) :
    ∃ first a b rest, bytes = first :: message.kind.code :: a :: b :: rest := by
  cases layout with
  | plain a b sender source rest other => exact ⟨_, a, b, _, rfl⟩
  | request a b sender unused source sequence r s t rest format => exact ⟨_, a, b, _, rfl⟩

theorem classify_of_layout (layout : Layout bytes message) :
    ∃ first rest, bytes = first :: rest ∧ classify bytes = classOf first := by
  obtain ⟨first, a, b, rest, rfl⟩ := layout.lead
  exact ⟨first, _, rfl, classify_control (isControlType_code message.kind) a b rest⟩

theorem classOf_ne_rtp (first : UInt8) : classOf first ≠ .rtp := by
  unfold classOf
  split <;> simp

theorem classOf_ne_tooShort (first : UInt8) (size : Nat) :
    classOf first ≠ .rejected (.tooShort size) := by
  unfold classOf
  split <;> simp

end Layouts

/-! ## What is written -/

theorem versionOf_written (message : Feedback) : versionOf (128 + message.format) = version := by
  have small := message.format_lt
  simp only [versionOf, version, UInt8.toNat_add, UInt8.reduceToNat]
  omega

theorem encode_eq_cons (message : Feedback) :
    ∃ rest, message.encode = (128 + message.format) :: rest := by
  cases fir : message.isFir with
  | true => exact ⟨_, encode_of_isFir fir⟩
  | false => exact ⟨_, encode_of_not_isFir fir⟩

/-- What is known of the octets of a message, and of a packet that begins with them. -/
structure IsControl (written packet : Octets) : Prop where
  words : 4 ∣ written.length
  /-- The length field counts the words of the message, without the first. -/
  length : (splitWord16 (written.drop 2)).map UInt16.toNat = some (written.length / 4 - 1)
  version : packet[0]?.map versionOf = some version
  classified : classify packet = .rtcp
  accepted : ∀ (f : Filter) now, f.wanted = .rtcp → f.accept now packet = (true, f, none)
  mismatched : ∀ (f : Filter) now, f.wanted = .rtp →
    (f.accept now packet).1 = false ∧
      (f.accept now packet).2.1.mismatched = f.mismatched + 1 ∧
      (f.accept now packet).2.1.rejected = f.rejected

theorem isControl_encodeInto (message : Feedback) (buffer rest : Octets) :
    IsControl (encodeInto buffer message) (encodeInto buffer message ++ rest) := by
  rw [encodeInto_eq]
  obtain ⟨tail, written⟩ := encode_eq_cons message
  have layout := layout_encode message rest
  have classified : classify (message.encode ++ rest) = .rtcp := by
    obtain ⟨first, behind, front, class_⟩ := classify_of_layout layout
    rw [written, List.cons_append] at front
    cases front
    rw [class_, classOf, if_pos (versionOf_written message)]
  refine ⟨?_, layout.rewrites.normalizes.words, ?_, classified, ?_, ?_⟩
  · rw [length_encode, size]
    split <;> decide
  · rw [written]
    exact congrArg some (versionOf_written message)
  · intro f now wanted
    apply Filter.accept_admitted
    rw [admits, classified, wanted]
    rfl
  · intro f now wanted
    have refused : admits f.wanted (message.encode ++ rest) = false := by
      rw [admits, classified, wanted]
      rfl
    rw [Filter.accept_dropped now refused, classified]
    exact ⟨rfl, rfl, rfl⟩

/-! ## What is read -/

/-- What is known of a packet with a message at its front. -/
structure IsNoMedia (bytes : Octets) : Prop where
  classified : ∃ first rest, bytes = first :: rest ∧
    classify bytes =
      if versionOf first = version then .rtcp else .rejected (.badVersion (versionOf first))
  notMedia : classify bytes ≠ .rtp
  notShort : ∀ size, classify bytes ≠ .rejected (.tooShort size)
  refused : ∀ (f : Filter) now, f.wanted = .rtp → (f.accept now bytes).1 = false

theorem isNoMedia_of_decode {bytes : Octets} {message : Feedback}
    (decoded : decode bytes = some message) : IsNoMedia bytes := by
  obtain ⟨first, rest, front, class_⟩ := classify_of_layout (layout_of_decode decoded)
  have notMedia : classify bytes ≠ .rtp := class_ ▸ classOf_ne_rtp first
  refine ⟨⟨first, rest, front, class_⟩, notMedia, fun size => ?_, fun f now wanted => ?_⟩
  · exact class_ ▸ classOf_ne_tooShort first size
  · rw [Filter.accept_eq_admits, admits, wanted]
    exact beq_false_of_ne notMedia

end Packet.Feedback

/-! ## Streams for media -/

/-- The filter of a connector admits what a receive returns. -/
theorem Connector.admitted_of_take {c d : Connector} {now : Tick} {loan : Loan}
    {arrival : Arrival} {packet : Received} {actions : List Action}
    (lent : loan.window.capacity = c.pool.size)
    (taken : c.take now loan arrival = (.done (.ok packet), d, actions)) {f : Filter}
    (filter : c.filter = some f) : Packet.admits f.wanted packet.loan.window.bytes = true := by
  have delivered : c.fate loan arrival = .delivered := (taken_of_take now lent taken).fate
  cases arrival with
  | failed fault => cases delivered
  | packet bytes claimed source =>
      obtain ⟨-, -, -, screened⟩ := read_of_fate (.inl delivered)
      have admitted := screened_eq_delivered_iff.1 (screened.symm.trans delivered) f filter
      obtain ⟨window, -, -, -, shown, answer⟩ := take_delivered now lent delivered
      cases taken.symm.trans answer
      exact shown ▸ admitted

namespace Packet.Feedback

/-- In no run does a receive on a stream for media return what the decoder takes for
feedback. -/
theorem received_undecodable {c : Connector} {now : Tick} {turns : List Traffic.Turn}
    {t : Traffic} (media : c.filter.map Filter.wanted = some .rtp) (uniform : c.pool.Uniform)
    (ran : Traffic.Run (.start c now) turns t) :
    ∀ turn ∈ turns, ∀ packet, turn.effect.outcome = some (.received (.ok packet)) →
      decode packet.loan.window.bytes = none := by
  intro turn member packet returned
  obtain ⟨⟨line, sound⟩, -⟩ := (ran.keeps uniform).2 turn member
  have wanted : turn.before.connector.filter.map Filter.wanted = some .rtp :=
    (congrArg Connector.Line.wanted line).trans media
  obtain ⟨f, filter, wants⟩ := Option.map_eq_some_iff.1 wanted
  obtain ⟨before, op, effect, after, step⟩ := turn
  cases step with
  | deliver found taken =>
      cases returned
      have lent := (sound.lent_of_waiting found).capacity
      have admitted := Connector.admitted_of_take lent taken filter
      cases decoded : decode packet.loan.window.bytes with
      | none => rfl
      | some message =>
          have refused := (isNoMedia_of_decode decoded).refused f now wants
          rw [Filter.accept_eq_admits, admitted] at refused
          cases refused
  | _ => cases returned

/-- **Classifier, filters and decoder agree about feedback.**  What is written for a message is
control traffic, whatever comes behind it: it is whole words, says so itself, and is let
through by every filter for control traffic and counted as gone astray by every filter for
media.  What is read as a message is control traffic if it is of version 2 and of no protocol
otherwise, and never media; so a stream for media never returns it. -/
theorem feedback_is_control :
    (∀ message buffer rest,
        IsControl (encodeInto buffer message) (encodeInto buffer message ++ rest)) ∧
      (∀ bytes message, decode bytes = some message → IsNoMedia bytes) ∧
      ∀ (c : Connector) now turns t, c.filter.map Filter.wanted = some .rtp → c.pool.Uniform →
        Traffic.Run (.start c now) turns t → ∀ turn ∈ turns, ∀ packet,
          turn.effect.outcome = some (.received (.ok packet)) →
            decode packet.loan.window.bytes = none :=
  ⟨isControl_encodeInto, fun _ _ => isNoMedia_of_decode,
    fun _ _ _ _ media uniform ran => received_undecodable media uniform ran⟩

/-- A picture loss indication without a version, and a stream that has returned a packet. -/
theorem feedback_without_version :
    decode [1, 206, 0, 2, 0, 0, 0, 1, 0, 0, 0, 2] = some (pli 1 2) ∧
      IsNoMedia [1, 206, 0, 2, 0, 0, 0, 1, 0, 0, 0, 2] ∧
      ∃ turns t turn packet, Connector.example13.filter.map Filter.wanted = some .rtp ∧
        Connector.example13.pool.Uniform ∧
        Traffic.Run (.start Connector.example13 0) turns t ∧ turn ∈ turns ∧
        turn.effect.outcome = some (.received (.ok packet)) ∧
        packet.loan.window.bytes = Connector.examplePacket ∧
        decode packet.loan.window.bytes = none := by
  have decoded : decode [1, 206, 0, 2, 0, 0, 0, 1, 0, 0, 0, 2] = some (pli 1 2) := by decide
  have ran :=
    Traffic.Run.turn ⟨.start Connector.example13 0, .receive, _, _, .receive rfl⟩ <|
    .turn ⟨_, .take 0 (.packet Connector.examplePacket none Connector.exampleAddress), _, _,
      .deliver rfl rfl⟩ <|
    .stop _
  refine ⟨decoded, feedback_is_control.2.1 _ _ decoded, _, _, _, _, rfl,
    Connector.example13_fresh.uniform, ran, List.mem_cons_of_mem _ (List.mem_singleton_self _),
    rfl, rfl, ?_⟩
  exact feedback_is_control.2.2 _ _ _ _ rfl Connector.example13_fresh.uniform ran _
    (List.mem_cons_of_mem _ (List.mem_singleton_self _)) _ rfl

end Packet.Feedback

end MediaTransport
