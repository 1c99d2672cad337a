/-
# MediaTransport.Pool.Depot -- several pools and the buffers they have lent

A depot is any number of pools, the handles through which they are used and the
buffers on loan, each under a name.  Handles are numbered; several may stand for the
same pool.  `Depot.step` carries out one operation; `none` means that the operation
names a handle or a buffer that there is none of.
-/
import MediaTransport.Pool
import MediaTransport.Window.Edit

namespace MediaTransport

set_option autoImplicit false

/-- Pools, the handles on them and the buffers on loan. -/
structure Depot where
  pools : List Pool
  /-- The pool that each handle stands for. -/
  handles : List PoolId
  /-- The buffers on loan by name, each name once. -/
  held : List (String × Loan) := []

namespace Depot

/-- The depot of new pools of given sizes and capacities, with a handle on each. -/
def start (shapes : List (Nat × Nat)) : Depot where
  pools := shapes.mapIdx fun id (size, capacity) => { id, size, capacity }
  handles := List.range shapes.length

/-- One use of a depot. -/
inductive Op where
  /-- Lends a buffer of the pool behind a handle under a name. -/
  | acquire (handle : Nat) (name : String)
  /-- Offers a buffer to the pool behind a handle. -/
  | recycle (handle : Nat) (name : String)
  /-- Frees a buffer. -/
  | free (name : String)
  /-- Takes the octets of a buffer out of the depot. -/
  | take (name : String)
  /-- Puts a new window on a buffer. -/
  | rewindow (name : String) (offset length : Nat)
  | close (handle : Nat)
  /-- Makes another handle on the same pool. -/
  | duplicate (handle : Nat)
  | edit (name : String) (change : Window.Edit)
  deriving DecidableEq, Repr

/-- What an operation answers. -/
inductive Answer where
  | done
  /-- The octets of a buffer. -/
  | octets (content : Octets)
  /-- The number of a new handle. -/
  | handle (number : Nat)
  | refused (error : Window.EditError)
  /-- A change that was made. -/
  | accepted
  deriving DecidableEq, Repr

/-- The pool behind a handle. -/
def pool? (d : Depot) (handle : Nat) : Option Pool :=
  d.handles[handle]?.bind fun id => d.pools.find? fun pool => pool.id == id

/-- The buffer under a name. -/
def loan? (d : Depot) (name : String) : Option Loan :=
  d.held.lookup name

/-- Whether a buffer is invalid: the pool that lent it is closed. -/
def invalid (d : Depot) (loan : Loan) : Bool :=
  d.pools.any fun pool => pool.invalidates loan

/-- The depot with a pool in place of the one with its identity. -/
def setPool (d : Depot) (pool : Pool) : Depot :=
  { d with pools := d.pools.map fun other => if other.id = pool.id then pool else other }

/-- The depot without the buffer under a name. -/
def release (d : Depot) (name : String) : Depot :=
  { d with held := d.held.filter fun entry => entry.1 != name }

/-- The depot with a buffer under a name, in place of any other. -/
def hold (d : Depot) (name : String) (loan : Loan) : Depot :=
  { d with held := (name, loan) :: (d.release name).held }

/-- Carries out one operation. -/
def step (d : Depot) : Op → Option (Answer × Depot)
  | .acquire handle name =>
    (d.pool? handle).map fun pool =>
      let (loan, pool) := pool.acquire
      (.done, (d.setPool pool).hold name loan)
  | .recycle handle name =>
    (d.pool? handle).bind fun pool =>
      (d.loan? name).map fun loan => (.done, (d.setPool (pool.recycle loan)).release name)
  | .free name =>
    (d.loan? name).map fun _ => (.done, d.release name)
  | .take name =>
    (d.loan? name).map fun loan => (.octets loan.window.storage.toList, d.release name)
  | .rewindow name offset length =>
    (d.loan? name).map fun loan =>
      match Window.make loan.window.storage offset length with
      | .ok window => (.accepted, d.hold name { loan with window })
      | .error error => (.refused (.bounds error), d.release name)
  | .close handle =>
    (d.pool? handle).map fun pool => (.done, d.setPool pool.close)
  | .duplicate handle =>
    d.handles[handle]?.map fun id =>
      (.handle d.handles.length, { d with handles := d.handles ++ [id] })
  | .edit name change =>
    (d.loan? name).map fun loan =>
      match loan.window.edit change with
      | .ok window => (.accepted, d.hold name { loan with window })
      | .error error => (.refused error, d)

end Depot

end MediaTransport
