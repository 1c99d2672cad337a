/-
# MediaTransport.Net.Host -- the sockets of one host

A session and its peers live on one host, so their network is a value: the bound datagram
sockets with what lies in their mailboxes, the sockets that listen for connections and
the connections.  Datagrams keep their boundaries and their order; one for an address
without a mailbox is lost.

A host is `routed` if it reaches its own addresses.  A host whose interfaces are all down
has no routing table and no addresses of the long family.  It cannot tell its own short
addresses from others, so it lets sockets be bound to any of them, but it has no way to
any of them either.  Its only interface is the one that leads back to itself.
-/
import MediaTransport.Net.Coverage
import MediaTransport.Net.Link

namespace MediaTransport.Net

set_option autoImplicit false

/-- A datagram that waits to be read. -/
structure Letter where
  bytes : Octets
  source : Address
  deriving DecidableEq

/-- A bound datagram socket with the datagrams that it has not read yet. -/
structure Mailbox where
  address : Address
  letters : List Letter := []
  deriving DecidableEq

/-- One host with the sockets on it. -/
structure Host where
  /-- Whether the host reaches its own addresses. -/
  routed : Bool
  mailboxes : List Mailbox := []
  /-- The addresses that accept connections. -/
  listeners : List Address := []
  /-- The connections by the address of their near end. -/
  links : List (Address × Link) := []
  /-- The next port for a socket that does not ask for one. -/
  nextPort : UInt16 := 41923

namespace Host

/-! ## Binding -/

/-- Whether a routed host lets sockets be bound to a short address: its own ones and
those that stand for several hosts. -/
def ownsShort (h : Host4) : Bool :=
  h.a == 127 || h.a == 0 || h.isGroup

/-- The number of the only interface. -/
def interfaceNumber : UInt32 := 1

/-- Why sockets cannot be bound to a long address.  A socket for connections cannot be
bound to a group.  An address that needs an interface has to name one that exists. -/
def refusesLong (host : Host) (forConnections : Bool) (h : Host6) (scope : UInt32) :
    Option Fault :=
  if forConnections && h.isGroup then some .invalidInput
  else if h.needsInterface && scope == 0 then some .invalidInput
  else if h.needsInterface && scope != interfaceNumber then some .uncategorized
  else if h.isGroup || (host.routed && h == .loopback) then none
  else some .addrNotAvailable

/-- Why sockets cannot be bound to an address, if they cannot. -/
def refuses (host : Host) (forConnections : Bool) (wanted : Address) : Option Fault :=
  match wanted.coverage with
  | .every => none
  | .short h => if host.routed && !ownsShort h then some .addrNotAvailable else none
  | .long h => host.refusesLong forConnections h wanted.scope

/-- The addresses of all sockets. -/
def addresses (host : Host) : List Address :=
  host.mailboxes.map Mailbox.address ++ host.listeners ++ host.links.map Prod.fst

/-- The first of some ports that no socket has. -/
def freePort (host : Host) : (tries : Nat) → UInt16 → UInt16
  | 0, port => port
  | tries + 1, port =>
    if host.addresses.any (·.port == port) then freePort host tries (port + 1) else port

/-- Chooses a port for an address that leaves the choice open. -/
def settlePort (host : Host) (wanted : Address) : Address × Host :=
  if wanted.port = 0 then
    let port := host.freePort host.addresses.length host.nextPort
    (wanted.withPort port, { host with nextPort := port + 1 })
  else (wanted, host)

/-- Finds the address of a new socket among those of its kind. -/
def claim (host : Host) (forConnections : Bool) (wanted : Address) (taken : List Address) :
    Except Fault Address × Host :=
  match host.refuses forConnections wanted with
  | some fault => (.error fault, host)
  | none =>
    let (address, host) := host.settlePort wanted
    if taken.any address.conflicts then (.error .addrInUse, host) else (.ok address, host)

/-- Binds a datagram socket. -/
def bind (host : Host) (wanted : Address) : Except Fault Address × Host :=
  match host.claim false wanted (host.mailboxes.map Mailbox.address) with
  | (.ok address, host) =>
    (.ok address, { host with mailboxes := host.mailboxes ++ [{ address }] })
  | refused => refused

/-- Releases the address of a datagram socket; what it has not read is lost. -/
def unbind (host : Host) (address : Address) : Host :=
  { host with mailboxes := host.mailboxes.filter fun m => m.address != address }

/-! ## Datagrams -/

/-- The largest datagram whose length its header can hold. -/
def largestDescribed : Nat := 65535

/-- The largest datagram that fits into a packet of the network: the length of a packet
counts the header of the short family, but not that of the long one. -/
def largestCarried (target : Address) : Nat :=
  if target.coverage.isShort then 65507 else 65527

/-- Why there is no way from a socket to a target, if there is none.  Without a routing
table there are only ways to the unspecified short host, which leads back to the host by
itself.  A socket of the long family that is bound to a short host insists on it as its
source: as a group that is invalid, as a single host it would have to be an address of
the host.  Without such a source a long target makes the host look for a long address of
its own. -/
def barrier (host : Host) (source target : Address) : Option Fault :=
  if host.routed then none
  else
    match target.coverage, source.coverage with
    | .short t, .short s =>
      if source.isShort || s == .unspecified then
        if t == .unspecified then none else some .networkUnreachable
      else if s.isGroup then some .invalidInput
      else some .networkUnreachable
    | .short t, _ => if t == .unspecified then none else some .networkUnreachable
    | _, .short _ => some .networkUnreachable
    | _, _ => some .addrNotAvailable

/-- Delivers a datagram to the sockets that get it; without a route it is lost. -/
def deliver (host : Host) (source target : Address) (bytes : Octets) : Host :=
  if host.routed then
    let put := fun (m : Mailbox) =>
      if m.address.receives target then { m with letters := m.letters ++ [⟨bytes, source⟩] }
      else m
    { host with mailboxes := host.mailboxes.map put }
  else host

/-- Sends a datagram on its way. -/
def post (host : Host) (source target : Address) (bytes : Octets) :
    Except Fault Unit × Host :=
  match host.barrier source target with
  | some fault => (.error fault, host)
  | none =>
    if largestCarried target < bytes.length then (.error .uncategorized, host)
    else (.ok (), host.deliver source target bytes)

/-- Sends a datagram from a bound socket.  A socket of the short family cannot name a
long address, and one that is bound to a long host has no way to short ones.  The length
is measured first for short targets only. -/
def send (host : Host) (source target : Address) (bytes : Octets) :
    Except Fault Unit × Host :=
  if source.isShort && !target.isShort then (.error .uncategorized, host)
  else
    let target := target.seenFrom source
    let short := target.coverage.isShort
    if short && source.coverage.isLong then (.error .networkUnreachable, host)
    else if short && largestDescribed < bytes.length then (.error .uncategorized, host)
    else if target.port = 0 then (.error .invalidInput, host)
    else host.post source target bytes

/-- What lies in the mailbox of a socket. -/
def letters (host : Host) (address : Address) : List Letter :=
  ((host.mailboxes.find? fun m => m.address == address).map Mailbox.letters).getD []

/-- Leaves other letters in the mailbox of a socket. -/
def setLetters (host : Host) (address : Address) (letters : List Letter) : Host :=
  { host with
    mailboxes := host.mailboxes.map fun m =>
      if m.address = address then { m with letters } else m }

/-! ## Connections -/

/-- Listens for connections. -/
def listen (host : Host) (wanted : Address) : Except Fault Address × Host :=
  match host.claim true wanted (host.listeners ++ host.links.map Prod.fst) with
  | (.ok address, host) =>
    (.ok address, { host with listeners := host.listeners ++ [address] })
  | refused => refused

/-- The address that a socket for a connection is bound to before it connects: the one
that is asked for, which has to be of the family of the remote, or the unspecified one. -/
def origin (host : Host) (remote : Address) (wanted : Option Address) :
    Except Fault Address × Host :=
  match wanted with
  | none => (.ok (remote.unspecified), host)
  | some address =>
    if address.isShort && !remote.isShort then (.error .invalidInput, host)
    else if !address.isShort && remote.isShort then (.error .uncategorized, host)
    else host.claim true address (host.listeners ++ host.links.map Prod.fst)

/-- Why a socket cannot connect to a remote, if it cannot.  A connection leads to a single
host, and on a routed host to the host itself.  Long groups and long addresses that lack
their interface are told before a way is looked for. -/
def unreachable (host : Host) (source remote : Address) : Option Fault :=
  let single := !remote.coverage.isGroup && (host.refuses true remote).isNone
  let other :=
    if host.routed && single then none
    else (host.barrier source remote).or (some .networkUnreachable)
  match remote.coverage with
  | .long h =>
    if h.isGroup then some .networkUnreachable
    else if h.needsInterface && remote.scope == 0 then some .invalidInput
    else other
  | _ => other

/-- The address of the near end of a connection: the one that the socket is bound to, or
that of the remote with a port of its own. -/
def nearEnd (host : Host) (source remote : Address) : Address × Host :=
  if source.port = 0 then host.settlePort (remote.withPort 0) else (source, host)

/-- Connects a socket to a listener, from a local address if one is given, and answers
the address of the near end. -/
def connect (host : Host) (remote : Address) (wanted : Option Address) :
    Except Fault Address × Host :=
  match host.origin remote wanted with
  | (.error fault, host) => (.error fault, host)
  | (.ok source, host) =>
    let remote := remote.seenFrom source
    match host.unreachable source remote with
    | some fault => (.error fault, host)
    | none =>
      let (near, host) := host.nearEnd source remote
      if host.listeners.any fun l => l.receives remote then
        (.ok near, { host with links := host.links ++ [(near, {})] })
      else (.error .connectionRefused, host)

/-- The connection with a given near end. -/
def link? (host : Host) (near : Address) : Option Link :=
  host.links.lookup near

/-- Puts a connection in place of the one with its near end. -/
def setLink (host : Host) (near : Address) (link : Link) : Host :=
  { host with links := host.links.map fun entry =>
      if entry.1 = near then (near, link) else entry }

end Host

end MediaTransport.Net
