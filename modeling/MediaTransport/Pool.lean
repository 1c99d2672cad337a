/-
# MediaTransport.Pool -- receive buffers that are used again

A pool lends buffers of one size.  A buffer goes back only by `recycle`; it keeps its
contents and is the next one to be lent.  At most `capacity` buffers wait; what is
recycled into a full pool, into a closed one or into one that did not lend it is freed.

A `Loan` is a buffer on loan, seen through a window.  It names its owner, so a pool
knows its own buffers from those of others.
-/
import MediaTransport.Window

namespace MediaTransport

set_option autoImplicit false

/-- What tells pools apart. -/
abbrev PoolId := Nat

/-- Buffers of one size that wait to be lent. -/
structure Pool where
  id : PoolId
  /-- Size of every buffer that the pool makes. -/
  size : Nat
  /-- How many buffers may wait. -/
  capacity : Nat
  /-- The waiting buffers, the one recycled last first. -/
  idle : List Storage := []
  closed : Bool := false
  deriving DecidableEq

/-- A buffer on loan, seen through a window. -/
structure Loan where
  owner : PoolId
  window : Window
  deriving DecidableEq

namespace Pool

/-- Lends the buffer recycled last, or a new one of zeros, with a window over all
of it. -/
def acquire (p : Pool) : Loan × Pool :=
  match p.idle with
  | buffer :: rest => (⟨p.id, Window.full buffer⟩, { p with idle := rest })
  | [] => (⟨p.id, Window.full (Storage.zeros p.size)⟩, p)

/-- Takes a buffer back, unless it is another pool's, the pool is closed or full. -/
def recycle (p : Pool) (loan : Loan) : Pool :=
  if loan.owner ≠ p.id ∨ p.closed then p
  else if p.idle.length < p.capacity then
    { p with idle := loan.window.storage.fit p.size :: p.idle }
  else p

/-- Frees the waiting buffers; those on loan become invalid. -/
def close (p : Pool) : Pool :=
  { p with closed := true, idle := [] }

/-- Whether a buffer was lent by this pool and the pool is closed. -/
def invalidates (p : Pool) (loan : Loan) : Bool :=
  p.closed && loan.owner == p.id

end Pool

end MediaTransport
