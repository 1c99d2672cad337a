/-
# MediaTransport.Net.Link -- a connection as its near end sees it

A connection carries octets both ways without packet boundaries.  A `Link` holds what
each end has written and the other has not read yet, whether the near end has shut the
connection down, and what has become of the far end.

A far end that closes before it has read everything resets the connection: the next use
of the near end fails.  After an orderly close the near end reads what is left and then
the end of the stream, and one more write is accepted, in vain, before writes fail.
-/
import MediaTransport.Net.Fault
import MediaTransport.Octets

namespace MediaTransport.Net

set_option autoImplicit false

/-- What a near end has to do with its far end. -/
inductive FarEnd where
  | present
  /-- Closed, but no write of the near end has met the fact. -/
  | left
  /-- Closed with unread octets; the next use of the near end fails. -/
  | reset
  /-- Known to be gone. -/
  | lost
  deriving DecidableEq, Repr

/-- A connection as its near end sees it. -/
structure Link where
  /-- Written by the far end and not read by the near end. -/
  inbound : Octets := []
  /-- Written by the near end and not read by the far end. -/
  outbound : Octets := []
  /-- Whether the near end has shut the connection down. -/
  shut : Bool := false
  farEnd : FarEnd := .present
  deriving DecidableEq, Repr

/-- What a read finds. -/
inductive Reading where
  /-- Nothing yet. -/
  | nothing
  /-- Octets, or none at the end of the stream. -/
  | octets (bytes : Octets)
  | failed (fault : Fault)
  deriving DecidableEq, Repr

namespace Link

/-! ## The near end -/

/-- Reads at most as many octets as there is room for. -/
def read (l : Link) (room : Nat) : Reading × Link :=
  if l.inbound ≠ [] then
    (.octets (l.inbound.take room), { l with inbound := l.inbound.drop room })
  else
    match l.farEnd with
    | .reset => (.failed .connectionReset, { l with farEnd := .lost })
    | .present => if l.shut then (.octets [], l) else (.nothing, l)
    | _ => (.octets [], l)

/-- Writes octets, all of them or none. -/
def write (l : Link) (bytes : Octets) : Except Fault Unit × Link :=
  if l.shut then (.error .brokenPipe, l)
  else
    match l.farEnd with
    | .present => (.ok (), { l with outbound := l.outbound ++ bytes })
    | .left => (.ok (), { l with farEnd := .lost })
    | .reset => (.error .connectionReset, { l with farEnd := .lost })
    | .lost => (.error .brokenPipe, l)

/-- Shuts both directions down. -/
def shutDown (l : Link) : Link :=
  { l with shut := true }

/-! ## The far end -/

/-- Takes octets from the far end; a near end that has shut down discards them. -/
def farWrite (l : Link) (bytes : Octets) : Link :=
  if l.shut then l else { l with inbound := l.inbound ++ bytes }

/-- Hands everything there is to the far end, with whether the stream has ended. -/
def farRead (l : Link) : Octets × Bool × Link :=
  (l.outbound, l.shut, { l with outbound := [] })

/-- Closes the far end. -/
def farClose (l : Link) : Link :=
  { l with outbound := [], farEnd := if l.outbound = [] then .left else .reset }

end Link

end MediaTransport.Net
