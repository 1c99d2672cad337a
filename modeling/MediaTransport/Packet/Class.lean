/-
# MediaTransport.Packet.Class -- telling media packets from control packets

The two streams of a session may share a port, so a packet has to be told apart
by its first octets alone: the version in the top two bits, then the packet type
in the second octet, whose values 200 to 211 are reserved for control packets.

A packet that is neither (`Class.rejected`) is kept apart from a well-formed
packet of the other protocol: the one means a broken sender, the other a packet
that went astray.
-/
import MediaTransport.Octets

namespace MediaTransport

set_option autoImplicit false

/-- Which half of a media session a stream carries. -/
inductive Protocol where
  | rtp
  | rtcp
  deriving DecidableEq, Repr

namespace Protocol

def name : Protocol → String
  | .rtp => "rtp"
  | .rtcp => "rtcp"

end Protocol

namespace Packet

/-- Why a packet belongs to no protocol. -/
inductive Flaw where
  /-- Fewer than the four octets with which both headers start. -/
  | tooShort (size : Nat)
  /-- The version field is not 2. -/
  | badVersion (version : Nat)
  deriving DecidableEq, Repr

/-- What the first octets of a packet say it is. -/
inductive Class where
  | rtp
  | rtcp
  | rejected (flaw : Flaw)
  deriving DecidableEq, Repr

/-- The protocol version both headers carry. -/
def version : Nat := 2

/-- The octets that the headers of both protocols start with. -/
def leadSize : Nat := 4

/-- The version field: the top two bits of the first octet. -/
def versionOf (first : UInt8) : Nat := first.toNat / 64

/-- Packet types reserved for control packets, sender report and following. -/
def isControlType (packetType : UInt8) : Bool :=
  200 ≤ packetType && packetType ≤ 211

/-- Demultiplexes one packet by its first two octets. -/
def classify (bytes : Octets) : Class :=
  match bytes with
  | first :: second :: _ :: _ :: _ =>
    if versionOf first = version then
      if isControlType second then .rtcp else .rtp
    else .rejected (.badVersion (versionOf first))
  | short => .rejected (.tooShort short.length)

/-- The class of the packets that belong on a stream of this protocol. -/
def Class.ofProtocol : Protocol → Class
  | .rtp => .rtp
  | .rtcp => .rtcp

/-- Whether a packet is well formed and of the wanted protocol. -/
def admits (wanted : Protocol) (bytes : Octets) : Bool :=
  classify bytes == Class.ofProtocol wanted

namespace Flaw

/-- The flaw as the log writes it. -/
def text : Flaw → String
  | .tooShort size => s!"TooShort({size})"
  | .badVersion version => s!"BadVersion({version})"

end Flaw

namespace Class

/-- The class as the log writes it. -/
def text : Class → String
  | .rtp => "Rtp"
  | .rtcp => "Rtcp"
  | .rejected flaw => s!"Rejected({flaw.text})"

end Class

end Packet

end MediaTransport
