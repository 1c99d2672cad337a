/-
# MediaTransport.Proofs.Pool.Depots -- many pools, their handles and the buffers between them

A `Turn` is a use of a depot with what was before and after it, and a `Run` is a history of
turns on new pools.  What a turn can do is said once, case by case (`Does`); it changes at
most one pool, and at most what is held under one name.

All along a run every pool is well kept and what is held was lent by one of the pools
(`Sound`).  Beside this, two things are told from the turns alone: which pools have been
closed, through whatever handle (`closedPools`), and which pool has lent what is held under a
name (`lender?`).  A pool is closed if its closing is among the turns, and so a buffer is
invalid if its lender has been closed (`run_kept`).
-/
import MediaTransport.Pool.Depot
import MediaTransport.Proofs.Lookup
import MediaTransport.Proofs.Pool.Buffers
import MediaTransport.Proofs.Window.Edits

namespace MediaTransport

set_option autoImplicit false

/-- What a pool begins with and never changes. -/
def Pool.shape (p : Pool) : PoolId × Nat × Nat :=
  (p.id, p.size, p.capacity)

namespace Pool

variable (p : Pool) (loan : Loan)

@[simp] theorem acquire_shape : p.acquire.2.shape = p.shape := by
  simp [shape]

@[simp] theorem recycle_shape : (p.recycle loan).shape = p.shape := by
  simp [shape]

@[simp] theorem close_shape : p.close.shape = p.shape := rfl

end Pool

namespace Depot

/-! ## What is held -/

section Held

variable (d : Depot) (name other : String) (loan : Loan)

theorem loan?_release :
    (d.release name).loan? other = if other = name then none else d.loan? other :=
  Lookup.lookup_filter_ne d.held other name

theorem loan?_hold :
    (d.hold name loan).loan? other = if other = name then some loan else d.loan? other := by
  have released := d.loan?_release name other
  unfold loan? at released ⊢
  rw [hold, Lookup.lookup_cons, released]
  split <;> rfl

end Held

/-! ## One use -/

/-- What a use of a depot does, one case for each way in which it can end. -/
inductive Does (d : Depot) : Op → Answer → Depot → Prop where
  | acquire {handle : Nat} {name : String} {pool : Pool} (found : d.pool? handle = some pool) :
      Does d (.acquire handle name) .done ((d.setPool pool.acquire.2).hold name pool.acquire.1)
  | recycle {handle : Nat} {name : String} {pool : Pool} {loan : Loan}
      (found : d.pool? handle = some pool) (held : d.loan? name = some loan) :
      Does d (.recycle handle name) .done ((d.setPool (pool.recycle loan)).release name)
  | free {name : String} {loan : Loan} (held : d.loan? name = some loan) :
      Does d (.free name) .done (d.release name)
  | take {name : String} {loan : Loan} (held : d.loan? name = some loan) :
      Does d (.take name) (.octets loan.window.storage.toList) (d.release name)
  | rewindow {name : String} {offset length : Nat} {loan : Loan} {window : Window}
      (held : d.loan? name = some loan)
      (capacity : window.capacity = loan.window.capacity) :
      Does d (.rewindow name offset length) .accepted (d.hold name { loan with window })
  | rewindowRefused {name : String} {offset length : Nat} {loan : Loan} {e : Window.EditError}
      (held : d.loan? name = some loan) :
      Does d (.rewindow name offset length) (.refused e) (d.release name)
  | close {handle : Nat} {pool : Pool} (found : d.pool? handle = some pool) :
      Does d (.close handle) .done (d.setPool pool.close)
  | duplicate {handle : Nat} {id : PoolId} (found : d.handles[handle]? = some id) :
      Does d (.duplicate handle) (.handle d.handles.length) { d with handles := d.handles ++ [id] }
  | edit {name : String} {change : Window.Edit} {loan : Loan} {window : Window}
      (held : d.loan? name = some loan)
      (capacity : window.capacity = loan.window.capacity) :
      Does d (.edit name change) .accepted (d.hold name { loan with window })
  | editRefused {name : String} {change : Window.Edit} {loan : Loan} {e : Window.EditError}
      (held : d.loan? name = some loan) : Does d (.edit name change) (.refused e) d

theorem does_of_step {d e : Depot} {op : Op} {answer : Answer}
    (step : d.step op = some (answer, e)) : Does d op answer e := by
  cases op with
  | acquire handle name =>
      obtain ⟨pool, found, same⟩ := Option.map_eq_some_iff.1 step
      cases same
      exact .acquire found
  | recycle handle name =>
      obtain ⟨pool, found, rest⟩ := Option.bind_eq_some_iff.1 step
      obtain ⟨loan, held, same⟩ := Option.map_eq_some_iff.1 rest
      cases same
      exact .recycle found held
  | free name =>
      obtain ⟨loan, held, same⟩ := Option.map_eq_some_iff.1 step
      cases same
      exact .free held
  | take name =>
      obtain ⟨loan, held, same⟩ := Option.map_eq_some_iff.1 step
      cases same
      exact .take held
  | rewindow name offset length =>
      obtain ⟨loan, held, same⟩ := Option.map_eq_some_iff.1 step
      split at same
      · rename_i window made
        cases same
        exact .rewindow held (congrArg Storage.size (Window.storage_of_make made))
      · cases same
        exact .rewindowRefused held
  | close handle =>
      obtain ⟨pool, found, same⟩ := Option.map_eq_some_iff.1 step
      cases same
      exact .close found
  | duplicate handle =>
      obtain ⟨id, found, same⟩ := Option.map_eq_some_iff.1 step
      cases same
      exact .duplicate found
  | edit name change =>
      obtain ⟨loan, held, same⟩ := Option.map_eq_some_iff.1 step
      split at same
      · rename_i window edited
        cases same
        exact .edit held (Window.capacity_edit edited)
      · cases same
        exact .editRefused held

/-! ## Sound depots -/

/-- Every pool is where its identity says and as it was made, and is well kept; every handle
stands for a pool, and what is held was lent by one. -/
structure Sound (shapes : List (Nat × Nat)) (d : Depot) : Prop where
  shaped : d.pools.map Pool.shape = shapes.mapIdx fun id (size, capacity) => (id, size, capacity)
  kept : ∀ pool ∈ d.pools, pool.WellKept
  handles : ∀ id ∈ d.handles, id < shapes.length
  lent : ∀ name loan, d.loan? name = some loan → ∃ pool ∈ d.pools, pool.Lent loan

theorem sound_start (shapes : List (Nat × Nat)) : Sound shapes (start shapes) where
  shaped := by
    apply List.ext_getElem?
    intro i
    simp [start, Pool.shape, Function.comp_def]
  kept := by
    intro pool member
    obtain ⟨i, -, rfl⟩ := List.mem_mapIdx.1 member
    exact .of_empty rfl
  handles := fun id => List.mem_range.1
  lent := by simp [start, loan?]

namespace Sound

variable {shapes : List (Nat × Nat)} {d : Depot}

theorem length_pools (sound : Sound shapes d) : d.pools.length = shapes.length := by
  simpa using congrArg List.length sound.shaped

theorem shape_at (sound : Sound shapes d) {i : Nat} {pool : Pool}
    (found : d.pools[i]? = some pool) :
    shapes[i]? = some (pool.size, pool.capacity) ∧ pool.id = i := by
  have same := congrArg (fun list => list[i]?) sound.shaped
  simp only [List.getElem?_map, found, List.getElem?_mapIdx, Option.map_some] at same
  obtain ⟨⟨size, capacity⟩, place, told⟩ := Option.map_eq_some_iff.1 same.symm
  cases told
  exact ⟨place, rfl⟩

theorem place (sound : Sound shapes d) {pool : Pool} (member : pool ∈ d.pools) :
    d.pools[pool.id]? = some pool := by
  obtain ⟨i, found⟩ := List.mem_iff_getElem?.1 member
  rw [(sound.shape_at found).2]
  exact found

/-- Pools differ in their identities. -/
theorem eq_of_id (sound : Sound shapes d) {pool other : Pool} (member : pool ∈ d.pools)
    (among : other ∈ d.pools) (same : other.id = pool.id) : other = pool := by
  have place := sound.place among
  rw [same, sound.place member] at place
  exact (Option.some.inj place).symm

/-- The pool behind a handle is the one that the handle stands for. -/
theorem pool?_eq (sound : Sound shapes d) (handle : Nat) :
    d.pool? handle = d.handles[handle]?.bind (d.pools[·]?) := by
  have searched : ∀ id, d.pools.find? (fun pool => pool.id == id) = d.pools[id]? := by
    intro id
    cases found : d.pools.find? fun pool => pool.id == id with
    | some pool =>
        have same : pool.id = id := by simpa using List.find?_some found
        rw [← same]
        exact (sound.place (List.mem_of_find?_eq_some found)).symm
    | none =>
        cases at_id : d.pools[id]? with
        | none => rfl
        | some pool =>
            have absent := List.find?_eq_none.1 found pool (List.mem_of_getElem? at_id)
            exact absurd (sound.shape_at at_id).2 (by simpa using absent)
  unfold pool?
  congr 1
  funext id
  exact searched id

theorem mem_of_pool? (sound : Sound shapes d) {handle : Nat} {pool : Pool}
    (found : d.pool? handle = some pool) :
    d.handles[handle]? = some pool.id ∧ pool ∈ d.pools := by
  rw [sound.pool?_eq] at found
  obtain ⟨id, stands, there⟩ := Option.bind_eq_some_iff.1 found
  rw [(sound.shape_at there).2]
  exact ⟨stands, List.mem_of_getElem? there⟩

/-- Every handle has its pool. -/
theorem exists_pool (sound : Sound shapes d) {handle : Nat} (inside : handle < d.handles.length) :
    ∃ pool, d.pool? handle = some pool := by
  have stands := List.getElem?_eq_getElem inside
  have bound := sound.handles _ (List.mem_of_getElem? stands)
  rw [← sound.length_pools] at bound
  exact ⟨_, by rw [sound.pool?_eq, stands]; exact List.getElem?_eq_getElem bound⟩

/-- Putting a pool in its place leaves the others alone. -/
theorem getElem?_setPool (sound : Sound shapes d) {pool : Pool} (member : pool ∈ d.pools)
    {later : Pool} (same : later.id = pool.id) (i : Nat) :
    (d.setPool later).pools[i]? = if i = pool.id then some later else d.pools[i]? := by
  simp only [setPool, List.getElem?_map, same]
  by_cases here : i = pool.id
  · rw [if_pos here, here, sound.place member]
    simp
  · rw [if_neg here]
    cases found : d.pools[i]? with
    | none => rfl
    | some other =>
        have id := (sound.shape_at found).2
        simp [id, here]

theorem setPool_self (sound : Sound shapes d) {pool : Pool} (member : pool ∈ d.pools) :
    (d.setPool pool).pools = d.pools := by
  apply List.ext_getElem?
  intro i
  rw [sound.getElem?_setPool member rfl]
  split
  · rename_i here
    rw [here, sound.place member]
  · rfl

theorem setPool (sound : Sound shapes d) {pool later : Pool} (member : pool ∈ d.pools)
    (same : later.shape = pool.shape) (kept : later.WellKept) :
    Sound shapes (d.setPool later) := by
  have id : later.id = pool.id := congrArg Prod.fst same
  have size : later.size = pool.size := congrArg (fun shape => shape.2.1) same
  have at_place := sound.getElem?_setPool member id
  refine ⟨?_, fun other inside => ?_, sound.handles, fun name loan held => ?_⟩
  · rw [← sound.shaped]
    apply List.ext_getElem?
    intro i
    rw [List.getElem?_map, List.getElem?_map, at_place]
    split
    · rename_i here
      rw [here, sound.place member]
      exact congrArg some same
    · rfl
  · obtain ⟨i, found⟩ := List.mem_iff_getElem?.1 inside
    rw [at_place] at found
    split at found
    · cases found
      exact kept
    · exact sound.kept other (List.mem_of_getElem? found)
  · obtain ⟨lender, among, lent⟩ := sound.lent name loan held
    by_cases here : lender.id = pool.id
    · have one := sound.eq_of_id member among here
      refine ⟨later, List.mem_of_getElem? ((at_place pool.id).trans (if_pos rfl)), ?_⟩
      exact (one ▸ lent).congr id size
    · refine ⟨lender, List.mem_of_getElem? ((at_place lender.id).trans ?_), lent⟩
      rw [if_neg here, sound.place among]

theorem release (sound : Sound shapes d) (name : String) : Sound shapes (d.release name) := by
  refine ⟨sound.shaped, sound.kept, sound.handles, fun other loan held => ?_⟩
  rw [loan?_release] at held
  split at held
  · cases held
  · exact sound.lent other loan held

theorem hold (sound : Sound shapes d) (name : String) {loan : Loan} {pool : Pool}
    (member : pool ∈ d.pools) (lent : pool.Lent loan) : Sound shapes (d.hold name loan) := by
  refine ⟨sound.shaped, sound.kept, sound.handles, fun other held? held => ?_⟩
  rw [loan?_hold] at held
  split at held
  · cases held
    exact ⟨pool, member, lent⟩
  · exact sound.lent other held? held

/-- A buffer stays lent when its window changes. -/
theorem look (sound : Sound shapes d) {name : String} {loan : Loan} {window : Window}
    (held : d.loan? name = some loan) (capacity : window.capacity = loan.window.capacity) :
    Sound shapes (d.hold name { loan with window }) := by
  obtain ⟨pool, member, lent⟩ := sound.lent name loan held
  exact sound.hold name member ⟨lent.owner, capacity.trans lent.capacity⟩

end Sound

theorem Does.sound {shapes : List (Nat × Nat)} {d e : Depot} {op : Op} {answer : Answer}
    (does : Does d op answer e) (sound : Sound shapes d) : Sound shapes e := by
  cases does with
  | @acquire handle name pool found =>
      have member := (sound.mem_of_pool? found).2
      have kept := sound.kept pool member
      have next := sound.setPool member pool.acquire_shape kept.acquire
      have there : pool.acquire.2 ∈ (d.setPool pool.acquire.2).pools :=
        List.mem_of_getElem?
          ((sound.getElem?_setPool member pool.acquire_id pool.id).trans (if_pos rfl))
      exact next.hold name there
        ((Pool.lent_acquire kept.uniform).congr pool.acquire_id pool.acquire_size)
  | @recycle handle name pool loan found held =>
      have member := (sound.mem_of_pool? found).2
      have kept := (sound.kept pool member).recycle loan
      exact (sound.setPool member (pool.recycle_shape loan) kept).release name
  | free held => exact sound.release _
  | take held => exact sound.release _
  | rewindow held capacity => exact sound.look held capacity
  | rewindowRefused held => exact sound.release _
  | @close handle pool found =>
      exact sound.setPool (sound.mem_of_pool? found).2 pool.close_shape (.close pool)
  | @duplicate handle id found =>
      refine ⟨sound.shaped, sound.kept, fun other member => ?_, sound.lent⟩
      rcases List.mem_append.1 member with old | new
      · exact sound.handles other old
      · rw [List.mem_singleton.1 new]
        exact sound.handles id (List.mem_of_getElem? found)
  | edit held capacity => exact sound.look held capacity
  | editRefused held => exact sound

/-! ## Turns and runs -/

/-- A use with what was before and after it. -/
structure Turn where
  before : Depot
  op : Op
  answer : Answer
  after : Depot
  step : before.step op = some (answer, after)

namespace Turn

variable (turn : Turn)

/-- The pool that a turn is about. -/
def pool? : Option PoolId :=
  match turn.op with
  | .acquire handle _ | .recycle handle _ | .close handle => turn.before.handles[handle]?
  | _ => none

/-- The pool that a turn closes. -/
def closes? : Option PoolId :=
  match turn.op with
  | .close handle => turn.before.handles[handle]?
  | _ => none

/-- The pool that lends a buffer under a name in a turn. -/
def lends? (name : String) : Option PoolId :=
  match turn.op with
  | .acquire handle other => if other = name then turn.before.handles[handle]? else none
  | _ => none

end Turn

/-- Turns one after the other, from new pools on. -/
inductive Run (shapes : List (Nat × Nat)) : List Turn → Depot → Prop where
  | start : Run shapes [] (.start shapes)
  | turn {turns : List Turn} (turn : Turn) (earlier : Run shapes turns turn.before) :
      Run shapes (turns ++ [turn]) turn.after

/-- The pools that have been closed. -/
def closedPools (turns : List Turn) : List PoolId :=
  turns.filterMap Turn.closes?

/-- The pool of the latest acquire under a name. -/
def lender? (turns : List Turn) (name : String) : Option PoolId :=
  (turns.filterMap (·.lends? name)).getLast?

theorem mem_closedPools_concat (turns : List Turn) (turn : Turn) (id : PoolId) :
    id ∈ closedPools (turns ++ [turn]) ↔ id ∈ closedPools turns ∨ turn.closes? = some id := by
  simp [closedPools, eq_comm]

theorem lender?_concat (turns : List Turn) (turn : Turn) (name : String) :
    lender? (turns ++ [turn]) name = (turn.lends? name).or (lender? turns name) := by
  unfold lender?
  rw [List.filterMap_append]
  cases lends : turn.lends? name <;> simp [lends]

/-! ## One turn -/

/-- What a turn does, and what it leaves alone. -/
structure Turn.Lawful (turn : Turn) : Prop where
  /-- A handle stands for its pool for good, and so does its duplicate. -/
  handles : turn.before.handles <+: turn.after.handles
  duplicates : ∀ handle, turn.op = .duplicate handle → ∃ number,
    turn.answer = .handle number ∧ turn.after.handles[number]? = turn.before.handles[handle]?
  /-- A pool lends a buffer of its size, seen as a whole, closed or not. -/
  acquires : ∀ handle name, turn.op = .acquire handle name → ∃ pool loan,
    turn.before.pool? handle = some pool ∧ turn.after.loan? name = some loan ∧
      loan.owner = pool.id ∧ loan.window.offset = 0 ∧ loan.window.length = pool.size ∧
      loan.window.capacity = pool.size
  /-- A buffer that comes back to its pool has the size of the pool and is kept as it is; one
  of another pool changes nothing. -/
  recycles : ∀ handle name, turn.op = .recycle handle name → ∃ pool loan,
    turn.before.pool? handle = some pool ∧ turn.before.loan? name = some loan ∧
      (loan.owner ≠ pool.id → turn.after.pools = turn.before.pools) ∧
      (loan.owner = pool.id → loan.window.capacity = pool.size ∧
        turn.after.pools[pool.id]? = some
          (if pool.closed ∨ pool.capacity ≤ pool.idle.length then pool
          else { pool with idle := loan.window.storage :: pool.idle }))
  /-- A pool that is closed stays closed, and nothing waits in it. -/
  closed : ∀ (id : PoolId) (pool : Pool), turn.before.pools[id]? = some pool →
    pool.closed = true → ∃ later : Pool, turn.after.pools[id]? = some later ∧
      later.closed = true ∧ later.idle = []
  others : ∀ id, turn.pool? ≠ some id → turn.after.pools[id]? = turn.before.pools[id]?

/-- Whether the pool with an identity is closed. -/
def IsClosed (d : Depot) (id : PoolId) : Prop :=
  ∃ pool : Pool, d.pools[id]? = some pool ∧ pool.closed = true

theorem invalid_iff {shapes : List (Nat × Nat)} {d : Depot} (sound : Sound shapes d) (loan : Loan) :
    d.invalid loan = true ↔ d.IsClosed loan.owner := by
  simp only [invalid, List.any_eq_true, Pool.invalidates, Bool.and_eq_true, beq_iff_eq]
  constructor
  · rintro ⟨pool, member, closed, owner⟩
    exact ⟨pool, owner ▸ sound.place member, closed⟩
  · rintro ⟨pool, found, closed⟩
    exact ⟨pool, List.mem_of_getElem? found, closed, (sound.shape_at found).2.symm⟩

namespace Turn

variable {shapes : List (Nat × Nat)} (turn : Turn)

theorem does : Does turn.before turn.op turn.answer turn.after :=
  does_of_step turn.step

/-- A turn changes no pool, or the one that it is about, and closes that one or leaves it as
closed as it was. -/
theorem pools_cases (sound : Sound shapes turn.before) :
    (turn.pool? = none ∧ turn.closes? = none ∧ turn.after.pools = turn.before.pools) ∨
    ∃ pool later, pool ∈ turn.before.pools ∧ turn.pool? = some pool.id ∧
      later.shape = pool.shape ∧ turn.after.pools = (turn.before.setPool later).pools ∧
      (turn.closes? = none ∧ later.closed = pool.closed ∨
        turn.closes? = some pool.id ∧ later.closed = true) := by
  obtain ⟨d, op, answer, e, step⟩ := turn
  cases does_of_step step with
  | @acquire handle name pool found =>
      obtain ⟨stands, member⟩ := sound.mem_of_pool? found
      exact .inr ⟨pool, _, member, stands, pool.acquire_shape, rfl, .inl ⟨rfl, pool.acquire_closed⟩⟩
  | @recycle handle name pool loan found held =>
      obtain ⟨stands, member⟩ := sound.mem_of_pool? found
      exact .inr ⟨pool, _, member, stands, pool.recycle_shape loan, rfl,
        .inl ⟨rfl, pool.recycle_closed loan⟩⟩
  | @close handle pool found =>
      obtain ⟨stands, member⟩ := sound.mem_of_pool? found
      exact .inr ⟨pool, _, member, stands, pool.close_shape, rfl, .inr ⟨stands, rfl⟩⟩
  | _ => exact .inl ⟨rfl, rfl, rfl⟩

theorem pool_at_of_ne (sound : Sound shapes turn.before) {id : PoolId}
    (other : turn.pool? ≠ some id) : turn.after.pools[id]? = turn.before.pools[id]? := by
  rcases turn.pools_cases sound with ⟨-, -, same⟩ | ⟨pool, later, member, about, shape, set, -⟩
  · rw [same]
  · rw [set, sound.getElem?_setPool member (congrArg Prod.fst shape), if_neg]
    rintro rfl
    exact other about

/-- A pool is closed after a turn if it was before or the turn closes it. -/
theorem isClosed_after (sound : Sound shapes turn.before) (id : PoolId) :
    turn.after.IsClosed id ↔ turn.before.IsClosed id ∨ turn.closes? = some id := by
  unfold IsClosed
  rcases turn.pools_cases sound with ⟨-, none_closed, same⟩ |
    ⟨pool, later, member, about, shape, set, kept⟩
  · simp [same, none_closed]
  · rw [set, sound.getElem?_setPool member (congrArg Prod.fst shape)]
    by_cases here : id = pool.id
    · rw [if_pos here, here, sound.place member]
      rcases kept with ⟨open_, same⟩ | ⟨closes, closed⟩
      · simp [open_, same]
      · simp [closes, closed]
    · rw [if_neg here]
      rcases kept with ⟨open_, -⟩ | ⟨closes, -⟩
      · simp [open_]
      · simp [closes, Ne.symm here]

theorem lawful (sound : Sound shapes turn.before) : turn.Lawful := by
  have next := turn.does.sound sound
  have closed : ∀ (id : PoolId) (pool : Pool), turn.before.pools[id]? = some pool →
      pool.closed = true → ∃ later : Pool, turn.after.pools[id]? = some later ∧
        later.closed = true ∧ later.idle = [] := by
    intro id pool found closed
    obtain ⟨later, there, closed⟩ := (turn.isClosed_after sound id).2 (.inl ⟨pool, found, closed⟩)
    exact ⟨later, there, closed, (next.kept later (List.mem_of_getElem? there)).drained closed⟩
  have others : ∀ id : PoolId, turn.pool? ≠ some id →
      turn.after.pools[id]? = turn.before.pools[id]? := by
    intro id other
    exact turn.pool_at_of_ne sound other
  obtain ⟨d, op, answer, e, step⟩ := turn
  refine ⟨?_, ?_, ?_, ?_, closed, others⟩
  · cases does_of_step step with
    | duplicate => exact List.prefix_append _ _
    | _ => exact List.prefix_refl _
  · rintro handle rfl
    cases does_of_step step with
    | duplicate found => exact ⟨_, rfl, List.getElem?_concat_length.trans found.symm⟩
  · rintro handle name rfl
    cases does_of_step step with
    | @acquire _ _ pool found =>
        have lent := Pool.lent_acquire (sound.kept pool (sound.mem_of_pool? found).2).uniform
        obtain ⟨offset, length⟩ := pool.acquire_window
        exact ⟨pool, pool.acquire.1, found, by rw [loan?_hold, if_pos rfl], lent.owner, offset,
          length.trans lent.capacity, lent.capacity⟩
  · rintro handle name rfl
    cases does_of_step step with
    | @recycle _ _ pool loan found held =>
        obtain ⟨-, member⟩ := sound.mem_of_pool? found
        refine ⟨pool, loan, found, held, fun foreign => ?_, fun own => ?_⟩
        · show (d.setPool (pool.recycle loan)).pools = d.pools
          rw [Pool.recycle_foreign foreign]
          exact sound.setPool_self member
        · obtain ⟨lender, among, lent⟩ := sound.lent name loan held
          obtain rfl := sound.eq_of_id member among (lent.owner.symm.trans own)
          refine ⟨lent.capacity, ?_⟩
          rw [← Pool.recycle_lent lent]
          exact (sound.getElem?_setPool member (lender.recycle_id loan) lender.id).trans
            (if_pos rfl)

/-- What is held under a name after a turn was held before, with its lender, or is lent in the
turn. -/
theorem owner_after {name : String} {loan : Loan} (held : turn.after.loan? name = some loan)
    (sound : Sound shapes turn.before) :
    turn.lends? name = some loan.owner ∨
      turn.lends? name = none ∧
        ∃ earlier, turn.before.loan? name = some earlier ∧ earlier.owner = loan.owner := by
  obtain ⟨d, op, answer, e, step⟩ := turn
  have released : ∀ {other : String}, (d.release other).loan? name = some loan →
      ∃ earlier, d.loan? name = some earlier ∧ earlier.owner = loan.owner := by
    intro other held
    rw [loan?_release] at held
    split at held
    · cases held
    · exact ⟨loan, held, rfl⟩
  have looked : ∀ {other : String} {earlier : Loan} {window : Window},
      d.loan? other = some earlier →
        (d.hold other { earlier with window }).loan? name = some loan →
          ∃ earlier, d.loan? name = some earlier ∧ earlier.owner = loan.owner := by
    intro other earlier window found held
    rw [loan?_hold] at held
    split at held
    · rename_i same
      cases held
      exact ⟨earlier, same ▸ found, rfl⟩
    · exact ⟨loan, held, rfl⟩
  cases does_of_step step with
  | @acquire handle other pool found =>
      have held : ((d.setPool pool.acquire.2).hold other pool.acquire.1).loan? name = some loan :=
        held
      rw [loan?_hold] at held
      split at held
      · rename_i same
        have stands := (sound.mem_of_pool? found).1
        cases held
        exact .inl (by simp [lends?, same, stands])
      · rename_i other
        exact .inr ⟨by simp [lends?, Ne.symm other], loan, held, rfl⟩
  | recycle _ _ => exact .inr ⟨rfl, released held⟩
  | free _ => exact .inr ⟨rfl, released held⟩
  | take _ => exact .inr ⟨rfl, released held⟩
  | rewindow found _ => exact .inr ⟨rfl, looked found held⟩
  | rewindowRefused _ => exact .inr ⟨rfl, released held⟩
  | close _ => exact .inr ⟨rfl, loan, held, rfl⟩
  | duplicate _ => exact .inr ⟨rfl, loan, held, rfl⟩
  | edit found _ => exact .inr ⟨rfl, looked found held⟩
  | editRefused _ => exact .inr ⟨rfl, loan, held, rfl⟩

end Turn

/-! ## A whole run -/

section Runs

variable {shapes : List (Nat × Nat)} {turns : List Turn} {d : Depot}

theorem Run.sound (ran : Run shapes turns d) : Sound shapes d := by
  induction ran with
  | start => exact sound_start shapes
  | turn turn _ sound => exact turn.does.sound sound

theorem Run.lawful (ran : Run shapes turns d) : ∀ turn ∈ turns, turn.Lawful := by
  induction ran with
  | start => simp
  | turn last earlier lawful =>
      intro turn member
      rcases List.mem_append.1 member with before | here
      · exact lawful turn before
      · rw [List.mem_singleton.1 here]
        exact last.lawful earlier.sound

theorem Run.isClosed_iff (ran : Run shapes turns d) (id : PoolId) :
    d.IsClosed id ↔ id ∈ closedPools turns := by
  induction ran with
  | start =>
      have opened : ∀ pool ∈ (Depot.start shapes).pools, pool.closed = false := by
        intro pool member
        obtain ⟨i, -, rfl⟩ := List.mem_mapIdx.1 member
        rfl
      simp only [closedPools, List.filterMap_nil, List.not_mem_nil, iff_false]
      rintro ⟨pool, found, closed⟩
      rw [opened pool (List.mem_of_getElem? found)] at closed
      cases closed
  | turn turn earlier ih =>
      rw [turn.isClosed_after earlier.sound, mem_closedPools_concat, ih]

theorem Run.lender (ran : Run shapes turns d) {name : String} {loan : Loan}
    (held : d.loan? name = some loan) : lender? turns name = some loan.owner := by
  induction ran generalizing loan with
  | start => cases held
  | turn turn earlier ih =>
      rw [lender?_concat]
      rcases turn.owner_after held earlier.sound with lent | ⟨silent, before, found, owner⟩
      · simp [lent]
      · rw [silent, Option.none_or, ih found, owner]

/-- What is true of a depot of pools of some shapes after a history. -/
structure Kept (shapes : List (Nat × Nat)) (turns : List Turn) (d : Depot) : Prop where
  shaped : d.pools.map (fun pool => (pool.size, pool.capacity)) = shapes
  bounded : ∀ pool ∈ d.pools, pool.idle.length ≤ pool.capacity
  uniform : ∀ pool ∈ d.pools, ∀ buffer ∈ pool.idle, buffer.size = pool.size
  /-- A pool is closed if a turn has closed it, and then nothing waits in it. -/
  closed : ∀ (id : PoolId) (pool : Pool), d.pools[id]? = some pool →
    (pool.closed = true ↔ id ∈ closedPools turns) ∧ (pool.closed = true → pool.idle = [])
  /-- Whatever has been closed, through every handle a buffer can be lent. -/
  lends : ∀ handle < d.handles.length, ∀ name, ∃ e,
    d.step (.acquire handle name) = some (.done, e)
  /-- What is held has the size of the pool that lent it, and is invalid if that one has been
  closed. -/
  held : ∀ name loan, d.loan? name = some loan → ∃ (id : PoolId) (pool : Pool),
    lender? turns name = some id ∧ d.pools[id]? = some pool ∧
      loan.window.capacity = pool.size ∧ (d.invalid loan = true ↔ id ∈ closedPools turns)

/-- **However pools, their handles and the buffers between them are used, each pool keeps to its
size, its room and its end, no pool is touched by what is done to another, and a buffer is
invalid exactly if the pool that lent it has been closed.** -/
theorem run_kept (ran : Run shapes turns d) :
    Kept shapes turns d ∧ ∀ turn ∈ turns, turn.Lawful := by
  have sound := ran.sound
  refine ⟨⟨?_, ?_, ?_, ?_, ?_, ?_⟩, ran.lawful⟩
  · apply List.ext_getElem?
    intro i
    rw [List.getElem?_map]
    cases found : d.pools[i]? with
    | some pool => exact (sound.shape_at found).1.symm
    | none =>
        have beyond := List.getElem?_eq_none_iff.1 found
        exact (List.getElem?_eq_none (sound.length_pools ▸ beyond)).symm
  · exact fun pool member => (sound.kept pool member).bounded
  · exact fun pool member => (sound.kept pool member).uniform
  · intro id pool found
    refine ⟨?_, (sound.kept pool (List.mem_of_getElem? found)).drained⟩
    rw [← ran.isClosed_iff]
    simp [IsClosed, found]
  · intro handle inside name
    obtain ⟨pool, found⟩ := sound.exists_pool inside
    exact ⟨_, by rw [step, found]; rfl⟩
  · intro name loan held
    obtain ⟨lender, among, lent⟩ := sound.lent name loan held
    refine ⟨loan.owner, lender, ran.lender held, ?_, lent.capacity, ?_⟩
    · rw [lent.owner]
      exact sound.place among
    · rw [invalid_iff sound, ran.isClosed_iff]

/-- A depot after uses of it, one after the other. -/
def after? (d : Depot) (ops : List Op) : Option Depot :=
  ops.foldlM (fun d op => (d.step op).map Prod.snd) d

/-- What can be carried out on a depot goes on with its run. -/
theorem exists_run (ran : Run shapes turns d) (ops : List Op) {e : Depot}
    (used : d.after? ops = some e) :
    ∃ later, Run shapes (turns ++ later) e ∧ later.map Turn.op = ops := by
  induction ops generalizing turns d with
  | nil =>
      cases used
      exact ⟨[], (List.append_nil turns).symm ▸ ran, rfl⟩
  | cons op rest ih =>
      obtain ⟨next, first, later⟩ := Option.bind_eq_some_iff.1 used
      obtain ⟨⟨answer, after⟩, step, rfl⟩ := Option.map_eq_some_iff.1 first
      obtain ⟨more, went, same⟩ := ih (.turn ⟨d, op, answer, after, step⟩ ran) later
      refine ⟨⟨d, op, answer, after, step⟩ :: more, ?_, congrArg (op :: ·) same⟩
      rwa [List.append_assoc] at went

end Runs

/-- Uses of two pools, one of them without room: a buffer is offered to the wrong pool, one is
kept, and the first pool is closed through the second handle on it. -/
def exampleOps : List Op :=
  [.acquire 0 "a", .duplicate 0, .acquire 2 "b", .acquire 1 "c", .edit "a" (.fill 7),
    .recycle 1 "a", .recycle 2 "b", .acquire 0 "d", .acquire 0 "e", .recycle 0 "e", .close 2,
    .acquire 0 "f", .recycle 0 "f", .rewindow "c" 1 2]

theorem kept_after_example :
    ∃ turns d, Run [(4, 1), (2, 0)] turns d ∧ turns.map Turn.op = exampleOps ∧
      d.pools.map (fun pool => (pool.closed, pool.idle.length)) = [(true, 0), (false, 0)] ∧
      d.held.map (fun entry => (entry.1, d.invalid entry.2)) = [("d", true)] ∧
      Kept [(4, 1), (2, 0)] turns d ∧ ∀ turn ∈ turns, turn.Lawful := by
  have outcome : ((start [(4, 1), (2, 0)]).after? exampleOps).map (fun d =>
      (d.pools.map fun pool => (pool.closed, pool.idle.length),
        d.held.map fun entry => (entry.1, d.invalid entry.2))) =
      some ([(true, 0), (false, 0)], [("d", true)]) := by
    decide
  obtain ⟨d, used, told⟩ := Option.map_eq_some_iff.1 outcome
  obtain ⟨turns, ran, ops⟩ := exists_run .start exampleOps used
  exact ⟨turns, d, ran, ops, congrArg Prod.fst told, congrArg Prod.snd told, run_kept ran⟩

end Depot

end MediaTransport
