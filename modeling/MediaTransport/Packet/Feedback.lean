/-
# MediaTransport.Packet.Feedback -- feedback messages of the control stream

```
 0                   1                   2                   3
 0 1 2 3 4 5 6 7 8 9 0 1 2 3 4 5 6 7 8 9 0 1 2 3 4 5 6 7 8 9 0 1
+-+-+-+-+-+-+-+-+-+-+-+-+-+-+-+-+-+-+-+-+-+-+-+-+-+-+-+-+-+-+-+-+
|V=2|P|   FMT   |       PT      |          length               |
|                  SSRC of packet sender                        |
|                  SSRC of media source                         |
:            Feedback Control Information                       :
```

The one kind of control information that is written is the entry of a full intra
request: the source that is asked for a key frame, the sequence number of the
request and three reserved octets.  Such a request leaves the media source of
the common header zero and names the source in its entry.

A `Feedback` can only be built with a format of five bits, and with a sequence
number only if it is a full intra request, so `decode` undoes `encode` for every
one of them.
-/
import MediaTransport.Octets

namespace MediaTransport.Packet

set_option autoImplicit false

/-- The two packet types that carry feedback. -/
inductive FeedbackKind where
  | transportLayer
  | payloadSpecific
  deriving DecidableEq, Repr

namespace FeedbackKind

/-- The packet type on the wire. -/
def code : FeedbackKind → UInt8
  | .transportLayer => 205
  | .payloadSpecific => 206

/-- The kind with a given packet type. -/
def ofCode? (packetType : UInt8) : Option FeedbackKind :=
  if packetType = 205 then some .transportLayer
  else if packetType = 206 then some .payloadSpecific
  else none

def name : FeedbackKind → String
  | .transportLayer => "TransportLayer"
  | .payloadSpecific => "PayloadSpecific"

end FeedbackKind

/-- The format of a picture loss indication. -/
def pictureLoss : UInt8 := 1

/-- The format of a full intra request. -/
def fullIntra : UInt8 := 4

/-- A feedback message of the control stream. -/
structure Feedback where
  kind : FeedbackKind
  /-- The message type within its kind, five bits. -/
  format : UInt8
  sender : UInt32
  /-- The media source that the message is about. -/
  source : UInt32
  /-- The command number of a full intra request, zero in every other message. -/
  sequence : UInt8
  format_lt : format.toNat < 32
  sequence_eq : ¬(kind = .payloadSpecific ∧ format = fullIntra) → sequence = 0
  deriving DecidableEq

namespace Feedback

/-- Size of the common header. -/
def headerSize : Nat := 12

/-- Size of the entry of a full intra request. -/
def entrySize : Nat := 8

/-- A message without a sequence number; only the low five bits of the format
are kept. -/
def create (kind : FeedbackKind) (format : UInt8) (sender source : UInt32) : Feedback where
  kind := kind
  format := format % 32
  sender := sender
  source := source
  sequence := 0
  format_lt := by
    rw [UInt8.toNat_mod]
    exact Nat.mod_lt _ (by decide)
  sequence_eq := fun _ => rfl

/-- A full intra request: `source` is asked for a key frame. -/
def fir (sender source : UInt32) (sequence : UInt8) : Feedback where
  kind := .payloadSpecific
  format := fullIntra
  sender := sender
  source := source
  sequence := sequence
  format_lt := by decide
  sequence_eq := fun other => absurd ⟨rfl, rfl⟩ other

/-- A picture loss indication. -/
def pli (sender source : UInt32) : Feedback :=
  create .payloadSpecific pictureLoss sender source

/-- Whether the message is a full intra request. -/
def isFir (message : Feedback) : Bool :=
  message.kind = .payloadSpecific && message.format = fullIntra

/-- The sequence number, which only a full intra request has. -/
def sequenceNumber? (message : Feedback) : Option UInt8 :=
  if message.isFir then some message.sequence else none

/-- Size on the wire: the common header and one entry for a full intra request. -/
def size (message : Feedback) : Nat :=
  if message.isFir then headerSize + entrySize else headerSize

/-- The message as it travels.  Version 2 and no padding; the length field counts
words, without the first. -/
def encode (message : Feedback) : Octets :=
  [128 + message.format, message.kind.code]
    ++ Octets.ofWord16 (UInt16.ofNat (message.size / 4 - 1))
    ++ Octets.ofWord32 message.sender
    ++ if message.isFir then
        Octets.ofWord32 0 ++ Octets.ofWord32 message.source ++ [message.sequence, 0, 0, 0]
      else Octets.ofWord32 message.source

/-- Puts a message into a buffer in place of everything the buffer held. -/
def encodeInto (buffer : Octets) (message : Feedback) : Octets :=
  buffer.drop buffer.length ++ message.encode

/-- Reads the message at the front of a packet.  Neither the version nor the
length field is looked at; a full intra request without its whole entry is no
message, so that every request names its source. -/
def decode (bytes : Octets) : Option Feedback :=
  match bytes with
  | first :: packetType :: _ :: _ :: body =>
    (FeedbackKind.ofCode? packetType).bind fun kind =>
      match Octets.splitWord32 body, Octets.splitWord32 (body.drop 4) with
      | some sender, some source =>
        if kind = .payloadSpecific ∧ first % 32 = fullIntra then
          match Octets.splitWord32 (body.drop 8), body.drop 12 with
          | some asked, sequence :: _ :: _ :: _ :: _ => some (fir sender asked sequence)
          | _, _ => none
        else some (create kind first sender source)
      | _, _ => none
  | _ => none

end Feedback

end MediaTransport.Packet
