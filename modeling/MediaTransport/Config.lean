/-
# MediaTransport.Config -- how a session is set up

A configuration describes the socket of each of the two streams and a few limits.  Every
part has a default, so the empty configuration is one.
-/
import MediaTransport.Log
import MediaTransport.Net.Address
import MediaTransport.PacketLog

namespace MediaTransport

set_option autoImplicit false

open Net (Address)

/-- The socket of one stream. -/
inductive Interface where
  /-- A bound socket that sends and receives datagrams; outgoing ones go to the remote
  unless they name a target. -/
  | udp (listen : Address) (remote : Option Address) (mtu : Nat)
      (receiveBuffer : Option Nat)
  /-- A socket that is connected to the remote, from a local address if one is given. -/
  | tcp (remote : Address) (listen : Option Address) (mtu : Nat)
      (receiveBuffer : Option Nat) (sendQueue : Nat)
  deriving DecidableEq

namespace Interface

/-- Size of the largest packet, where none is configured. -/
def defaultMtu : Nat := 1500

/-- Packets that may wait for a slow peer, where no number is configured. -/
def defaultSendQueue : Nat := 256

/-- Datagrams on a port of every local address. -/
def anyPort (port : UInt16) : Interface :=
  .udp (.v4 ⟨0, 0, 0, 0⟩ port) none defaultMtu none

def transport : Interface → Transport
  | .udp .. => .udp
  | .tcp .. => .tcp

/-- Size of the largest packet. -/
def mtu : Interface → Nat
  | .udp _ _ mtu _ => mtu
  | .tcp _ _ mtu _ _ => mtu

end Interface

/-- How a session is set up. -/
structure Config where
  rtp : Interface := Interface.anyPort 5004
  rtcp : Interface := Interface.anyPort 5005
  /-- Milliseconds between two reports of a recurring fault. -/
  minBackoff : Nat := 10000
  /-- Receive buffers that each stream may keep waiting. -/
  poolCapacity : Nat := 64
  /-- The packet logger that is tried before the built-in ones. -/
  packetLogger : Option String := none
  logLevel : Log.Level := .info
  deriving DecidableEq

namespace Config

/-- The interface of a stream. -/
def interface (c : Config) : Protocol → Interface
  | .rtp => c.rtp
  | .rtcp => c.rtcp

end Config

end MediaTransport
