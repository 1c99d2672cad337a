/-
# MediaTransport.Streams -- one thing for each of the two streams

A session consists of a media stream and a control stream, so much of what belongs to a
session comes in pairs.
-/
import MediaTransport.Packet.Class

namespace MediaTransport

set_option autoImplicit false

/-- One thing for each stream. -/
structure Streams (α : Type) where
  rtp : α
  rtcp : α

namespace Streams

variable {α β : Type}

def get (s : Streams α) : Protocol → α
  | .rtp => s.rtp
  | .rtcp => s.rtcp

def set (s : Streams α) (protocol : Protocol) (value : α) : Streams α :=
  match protocol with
  | .rtp => { s with rtp := value }
  | .rtcp => { s with rtcp := value }

def map (f : α → β) (s : Streams α) : Streams β :=
  ⟨f s.rtp, f s.rtcp⟩

end Streams

end MediaTransport
