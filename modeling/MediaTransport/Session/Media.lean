/-
# MediaTransport.Session.Media -- the loop of the media stream

The media loop follows the sequence numbers: it keeps the latest one that it has seen and
reports every packet that does not come after it.  Packets too short for a sequence
number pass without notice.
-/
import MediaTransport.Packet.Header
import MediaTransport.Packet.Sequence
import MediaTransport.Session.Loop

namespace MediaTransport.Session.Media

set_option autoImplicit false

open Net (Address)

/-- The latest sequence number, once there has been one. -/
abbrev Highest := Option UInt16

/-- What the media loop does with a packet. -/
def handler : Handler Highest := fun highest bytes source =>
  match Packet.Header.sequenceNumber bytes, highest with
  | none, _ => (highest, [])
  | some sequence, none => (some sequence, [])
  | some sequence, some last =>
    if Packet.Sequence.isAfter sequence last then (some sequence, [])
    else (highest, [.outOfOrder sequence last source])

end MediaTransport.Session.Media
