/-
# MediaTransport.Packet.Header -- the fixed fields of a media packet

```
 0                   1                   2                   3
 0 1 2 3 4 5 6 7 8 9 0 1 2 3 4 5 6 7 8 9 0 1 2 3 4 5 6 7 8 9 0 1
+-+-+-+-+-+-+-+-+-+-+-+-+-+-+-+-+-+-+-+-+-+-+-+-+-+-+-+-+-+-+-+-+
|V=2|P|X|  CC   |M|     PT      |       sequence number         |
|                           timestamp                           |
|           synchronization source identifier                   |
+-+-+-+-+-+-+-+-+-+-+-+-+-+-+-+-+-+-+-+-+-+-+-+-+-+-+-+-+-+-+-+-+
```

Each reader looks at its own octets only and answers `none` when the packet ends
before them; none of them checks the rest of the header.
-/
import MediaTransport.Octets

namespace MediaTransport.Packet.Header

set_option autoImplicit false

/-- Size of the fixed header, without contributing sources and extensions. -/
def size : Nat := 12

/-- The marker: the top bit of the second octet. -/
def marker (bytes : Octets) : Option Bool :=
  bytes[1]?.map fun octet => decide (128 ≤ octet.toNat)

/-- The payload type: the low seven bits of the second octet. -/
def payloadType (bytes : Octets) : Option Nat :=
  bytes[1]?.map fun octet => octet.toNat % 128

/-- The sequence number, octets 2 and 3. -/
def sequenceNumber (bytes : Octets) : Option UInt16 :=
  Octets.splitWord16 (bytes.drop 2)

/-- The sampling instant, octets 4 to 7. -/
def timestamp (bytes : Octets) : Option UInt32 :=
  bytes.word32At 4

/-- The synchronization source, octets 8 to 11. -/
def ssrc (bytes : Octets) : Option UInt32 :=
  bytes.word32At 8

end MediaTransport.Packet.Header
