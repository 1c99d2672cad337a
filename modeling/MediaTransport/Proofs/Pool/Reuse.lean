/-
# MediaTransport.Proofs.Pool.Reuse -- buffers come back last in, first out

What a turn of a depot does to one pool is told from the turn alone: it may keep a buffer
(`Turn.keeps?`), it may give one (`Turn.gives?`), or it leaves the pool as it is, whatever it
does to buffers on loan and to other pools.  A pool lends the buffer that it has kept last, so
what it keeps stays until, at some later time, more have been acquired than have been kept
since (`Untaken`).  This says of every acquire which recycle it takes back, without the pool:
the latest one whose buffer is untaken (`Latest`).  The counts stand for a matching of acquires
with recycles: a buffer ceases to be untaken when it is acquired as the latest (`untaken_iff`).

The waiting buffers are tied to the history in two ways.  The `n`-th of them is the untaken one
with `n` more kept than acquired since (`Run.getElem?_idle_iff`), and there are as many as have
been kept more than acquired since any one time, at most (`Run.le_length_idle_iff`).  Both
follow from the one law of a turn (`Turn.idle_after`), and `run_reuses` from them.
-/
import Mathlib.Data.List.Basic
import Mathlib.Data.List.Induction
import MediaTransport.Proofs.Pool.Depots

namespace MediaTransport.Depot

set_option autoImplicit false

/-! ## What a turn keeps and gives -/

namespace Turn

variable (turn : Turn)

/-- The buffer that a pool keeps in a turn: one that it has lent itself, while it is open and
has room. -/
def keeps? (id : PoolId) : Option Storage :=
  match turn.op with
  | .recycle handle name =>
    (turn.before.pool? handle).bind fun pool =>
      (turn.before.loan? name).bind fun loan =>
        if pool.id = id ∧ loan.owner = id ∧ pool.closed = false ∧ pool.idle.length < pool.capacity
        then some loan.window.storage else none
  | _ => none

/-- The buffer that is acquired of a pool in a turn. -/
def gives? (id : PoolId) : Option Storage :=
  match turn.op with
  | .acquire handle name =>
    if turn.before.handles[handle]? = some id
    then (turn.after.loan? name).map fun loan => loan.window.storage else none
  | _ => none

end Turn

/-- The buffers that a pool has kept, in the order in which they came. -/
def kept (id : PoolId) (turns : List Turn) : List Storage :=
  turns.filterMap (·.keeps? id)

/-- The buffers that have been acquired of a pool, in the order in which they went. -/
def given (id : PoolId) (turns : List Turn) : List Storage :=
  turns.filterMap (·.gives? id)

section Lists

variable (id : PoolId) (first second : List Turn) (turn : Turn)

theorem kept_append : kept id (first ++ second) = kept id first ++ kept id second :=
  List.filterMap_append

theorem given_append : given id (first ++ second) = given id first ++ given id second :=
  List.filterMap_append

theorem length_kept_append :
    (kept id (first ++ second)).length = (kept id first).length + (kept id second).length := by
  rw [kept_append, List.length_append]

theorem length_given_append :
    (given id (first ++ second)).length = (given id first).length + (given id second).length := by
  rw [given_append, List.length_append]

theorem kept_singleton : kept id [turn] = (turn.keeps? id).toList := by
  cases keeps : turn.keeps? id <;> simp [kept, keeps]

theorem given_singleton : given id [turn] = (turn.gives? id).toList := by
  cases gives : turn.gives? id <;> simp [given, gives]

end Lists

/-- The buffers that wait in a pool, the one kept last first. -/
def idle (d : Depot) (id : PoolId) : List Storage :=
  match d.pools[id]? with
  | some pool => pool.idle
  | none => []

theorem idle_of_place {d : Depot} {id : PoolId} {pool : Pool} (place : d.pools[id]? = some pool) :
    d.idle id = pool.idle := by
  simp only [idle, place]

namespace Sound

variable {shapes : List (Nat × Nat)} {d : Depot}

theorem idle_setPool (sound : Sound shapes d) {pool later : Pool} (member : pool ∈ d.pools)
    (same : later.id = pool.id) (id : PoolId) :
    (d.setPool later).idle id = if id = pool.id then later.idle else d.idle id := by
  have there := sound.getElem?_setPool member same id
  by_cases here : id = pool.id
  · rw [if_pos here] at there ⊢
    exact idle_of_place there
  · rw [if_neg here] at there ⊢
    simp only [idle, there]

theorem idle_place (sound : Sound shapes d) {pool : Pool} (member : pool ∈ d.pools) :
    d.idle pool.id = pool.idle :=
  idle_of_place (sound.place member)

end Sound

namespace Turn

variable {shapes : List (Nat × Nat)} {id : PoolId} {turn : Turn}

theorem keeps?_of_recycle {handle : Nat} {name : String} {pool : Pool} {loan : Loan}
    (op : turn.op = .recycle handle name) (found : turn.before.pool? handle = some pool)
    (held : turn.before.loan? name = some loan) (id : PoolId) :
    turn.keeps? id =
      if pool.id = id ∧ loan.owner = id ∧ pool.closed = false ∧
          pool.idle.length < pool.capacity
      then some loan.window.storage else none := by
  simp only [keeps?, op, found, held, Option.bind_some]

/-- A buffer that comes back to the pool that lent it is put in front if it is kept. -/
theorem idle_recycle {d : Depot} (sound : Sound shapes d) {name : String} {pool : Pool}
    {loan : Loan} (member : pool ∈ d.pools) (held : d.loan? name = some loan) :
    (pool.recycle loan).idle =
      (if loan.owner = pool.id ∧ pool.closed = false ∧ pool.idle.length < pool.capacity
        then [loan.window.storage] else []) ++ pool.idle := by
  by_cases own : loan.owner = pool.id
  · obtain ⟨lender, among, lent⟩ := sound.lent name loan held
    obtain rfl := sound.eq_of_id member among (lent.owner.symm.trans own)
    rw [Pool.recycle_lent lent]
    by_cases refused : lender.closed = true ∨ lender.capacity ≤ lender.idle.length
    · have no_room : ¬ (loan.owner = lender.id ∧ lender.closed = false ∧
          lender.idle.length < lender.capacity) := by
        rintro ⟨-, opened, room⟩
        rcases refused with closed | full
        · exact Bool.false_ne_true (opened.symm.trans closed)
        · exact Nat.not_lt.2 full room
      rw [if_pos refused, if_neg no_room, List.nil_append]
    · obtain ⟨opened, room⟩ := not_or.1 refused
      rw [if_neg refused, if_pos ⟨own, Bool.eq_false_iff.2 opened, Nat.lt_of_not_le room⟩]
      rfl
  · rw [Pool.recycle_foreign own, if_neg fun kept => own kept.1, List.nil_append]

/-- The law of a turn: the pool keeps at most one buffer and gives at most one, the first that
waits. -/
theorem idle_after (sound : Sound shapes turn.before) (opened : turn.closes? ≠ some id) :
    turn.after.idle id =
      kept id [turn] ++ (turn.before.idle id).drop (given id [turn]).length := by
  rw [kept_singleton, given_singleton]
  obtain ⟨d, op, answer, e, step⟩ := turn
  cases does_of_step step with
  | @acquire handle name pool found =>
      obtain ⟨stands, member⟩ := sound.mem_of_pool? found
      have after : ((d.setPool pool.acquire.2).hold name pool.acquire.1).idle id =
          if id = pool.id then pool.idle.tail else d.idle id := by
        rw [← Pool.acquire_idle]
        exact sound.idle_setPool member pool.acquire_id id
      refine after.trans ?_
      by_cases here : id = pool.id
      · rw [if_pos here, here, sound.idle_place member]
        simp [keeps?, gives?, stands, loan?_hold]
      · rw [if_neg here]
        simp [keeps?, gives?, stands, Ne.symm here]
  | @recycle handle name pool loan found held =>
      obtain ⟨stands, member⟩ := sound.mem_of_pool? found
      have after : ((d.setPool (pool.recycle loan)).release name).idle id =
          if id = pool.id then (pool.recycle loan).idle else d.idle id :=
        sound.idle_setPool member (pool.recycle_id loan) id
      refine after.trans ?_
      rw [keeps?_of_recycle rfl found held]
      by_cases here : id = pool.id
      · rw [if_pos here, here, sound.idle_place member, idle_recycle sound member held]
        simp only [true_and, gives?, Option.toList_none, List.length_nil, List.drop_zero]
        congr 1
        split <;> rfl
      · rw [if_neg here, if_neg fun kept => here kept.1.symm]
        rfl
  | @close handle pool found =>
      obtain ⟨stands, member⟩ := sound.mem_of_pool? found
      have elsewhere : id ≠ pool.id := by
        rintro rfl
        exact opened stands
      have same : pool.close.id = pool.id := rfl
      exact (sound.idle_setPool member same id).trans (if_neg elsewhere)
  | _ => rfl

/-- What is acquired is the first buffer that waits, or a new one. -/
theorem acquires (sound : Sound shapes turn.before) {handle : Nat} {name : String}
    (op : turn.op = .acquire handle name) (stands : turn.before.handles[handle]? = some id) :
    ∃ pool loan, turn.before.pools[id]? = some pool ∧ turn.after.loan? name = some loan ∧
      loan.owner = id ∧ loan.window = Window.full loan.window.storage ∧
      turn.gives? id = some loan.window.storage ∧
      loan.window.storage = (turn.before.idle id).head?.getD (Storage.zeros pool.size) := by
  obtain ⟨d, op, answer, e, step⟩ := turn
  cases op
  cases does_of_step step with
  | @acquire _ _ pool found =>
      obtain ⟨handle_stands, member⟩ := sound.mem_of_pool? found
      cases handle_stands.symm.trans stands
      have held : ((d.setPool pool.acquire.2).hold name pool.acquire.1).loan? name =
          some pool.acquire.1 := by
        rw [loan?_hold, if_pos rfl]
      refine ⟨pool, pool.acquire.1, sound.place member, held, pool.acquire_owner, ?_, ?_, ?_⟩
      · unfold Pool.acquire
        split <;> rfl
      · simp only [gives?, stands, if_true, held, Option.map_some]
      · rw [sound.idle_place member]
        cases idle : pool.idle with
        | nil => rw [Pool.acquire_of_nil idle]; rfl
        | cons buffer rest => rw [Pool.acquire_of_cons idle]; rfl

theorem gives?_eq_head (sound : Sound shapes turn.before) {buffer first : Storage}
    (gives : turn.gives? id = some buffer) (waits : (turn.before.idle id).head? = some first) :
    buffer = first := by
  have acquired : ∃ handle name, turn.op = .acquire handle name ∧
      turn.before.handles[handle]? = some id := by
    unfold gives? at gives
    split at gives
    · rename_i handle name op
      split at gives
      · rename_i stands
        exact ⟨handle, name, op, stands⟩
      · cases gives
    · cases gives
  obtain ⟨handle, name, op, stands⟩ := acquired
  obtain ⟨pool, loan, -, -, -, -, same, head⟩ := turn.acquires sound op stands
  rw [waits] at head
  exact (Option.some.inj (gives.symm.trans same)).trans head

/-- A turn that keeps nothing gives the first buffer that waits, if one waits. -/
theorem given_append_idle (sound : Sound shapes turn.before) (opened : turn.closes? ≠ some id)
    (none_kept : kept id [turn] = [])
    (enough : (given id [turn]).length ≤ (turn.before.idle id).length) :
    given id [turn] ++ turn.after.idle id = turn.before.idle id := by
  rw [turn.idle_after sound opened, none_kept, List.nil_append]
  rw [given_singleton] at enough ⊢
  cases gives : turn.gives? id with
  | none => rfl
  | some buffer =>
      cases waiting : turn.before.idle id with
      | nil => simp [gives, waiting] at enough
      | cons first rest =>
          have head : (turn.before.idle id).head? = some first := by rw [waiting]; rfl
          rw [turn.gives?_eq_head sound gives head]
          rfl

theorem keeps?_or_gives? (turn : Turn) (id : PoolId) :
    turn.keeps? id = none ∨ turn.gives? id = none := by
  unfold keeps? gives?
  split
  · rename_i op
    exact .inr (by simp only [op])
  · exact .inl rfl

theorem isSome_keeps?_iff (turn : Turn) (id : PoolId) :
    (turn.keeps? id).isSome ↔ (kept id [turn]).length = 1 := by
  rw [kept_singleton]
  cases turn.keeps? id <;> simp

theorem isSome_gives?_iff (turn : Turn) (id : PoolId) :
    (turn.gives? id).isSome ↔ (given id [turn]).length = 1 := by
  rw [given_singleton]
  cases turn.gives? id <;> simp

theorem length_le_one (turn : Turn) (id : PoolId) :
    (kept id [turn]).length + (given id [turn]).length ≤ 1 := by
  rw [kept_singleton, given_singleton]
  rcases turn.keeps?_or_gives? id with none_kept | none_given
  · cases turn.gives? id <;> simp [none_kept]
  · cases turn.keeps? id <;> simp [none_given]

end Turn

/-! ## What is still there -/

/-- Whether what a pool kept before some turns is still there after them: a pool lends what it
has kept last, so this ends when more have been acquired than kept since. -/
def Untaken (id : PoolId) (since : List Turn) : Prop :=
  ∀ part, part <+: since → (given id part).length ≤ (kept id part).length

/-- Whether nothing is still there of what a pool has kept in some turns. -/
def AllTaken (id : PoolId) (turns : List Turn) : Prop :=
  ∀ first back since, turns = first ++ back :: since → (back.keeps? id).isSome →
    ¬ Untaken id since

/-- The buffer that a pool has kept last of those that are still there. -/
def Latest (id : PoolId) (turns : List Turn) (buffer : Storage) : Prop :=
  ∃ first back since, turns = first ++ back :: since ∧ back.keeps? id = some buffer ∧
    Untaken id since ∧ AllTaken id since

/-- Whether, since some time, a pool has kept as many more buffers than were acquired of it as it
has room for. -/
def Full (id : PoolId) (capacity : Nat) (turns : List Turn) : Prop :=
  ∃ since, since <:+ turns ∧ (given id since).length + capacity ≤ (kept id since).length

/-- A buffer that is still there, with a number of others kept after it. -/
def Waits (id : PoolId) (turns : List Turn) (n : Nat) (buffer : Storage) : Prop :=
  ∃ first back since, turns = first ++ back :: since ∧ back.keeps? id = some buffer ∧
    Untaken id since ∧ (kept id since).length = (given id since).length + n

section Counts

variable {id : PoolId} {turns : List Turn} {turn : Turn}

theorem untaken_nil : Untaken id [] := by
  intro part inside
  rw [List.prefix_nil.1 inside]
  exact Nat.le_refl _

theorem untaken_concat : Untaken id (turns ++ [turn]) ↔
    Untaken id turns ∧
      (given id turns).length + (given id [turn]).length ≤
        (kept id turns).length + (kept id [turn]).length := by
  simp only [Untaken, List.prefix_concat_iff, or_imp, forall_and, forall_eq,
    length_given_append, length_kept_append]
  exact and_comm

theorem waits_concat {n : Nat} {buffer : Storage} : Waits id (turns ++ [turn]) n buffer ↔
    (turn.keeps? id = some buffer ∧ n = 0) ∨
      ∃ m, Waits id turns m buffer ∧
        m + (kept id [turn]).length = n + (given id [turn]).length := by
  constructor
  · rintro ⟨first, back, since, cut, keeps, untaken, count⟩
    rcases List.eq_nil_or_concat' since with rfl | ⟨between, last, rfl⟩
    · obtain ⟨-, same⟩ := List.append_inj' cut rfl
      cases same
      exact .inl ⟨keeps, by simpa [kept, given, eq_comm] using count⟩
    · rw [← List.cons_append, ← List.append_assoc] at cut
      obtain ⟨rfl, same⟩ := List.append_inj' cut rfl
      cases same
      obtain ⟨untaken, -⟩ := untaken_concat.1 untaken
      have balance := untaken between (List.prefix_refl _)
      rw [length_kept_append, length_given_append] at count
      exact .inr ⟨(kept id between).length - (given id between).length,
        ⟨first, back, between, rfl, keeps, untaken, by omega⟩, by omega⟩
  · rintro (⟨keeps, rfl⟩ | ⟨m, ⟨first, back, since, rfl, keeps, untaken, count⟩, shift⟩)
    · exact ⟨turns, turn, [], rfl, keeps, untaken_nil, rfl⟩
    · refine ⟨first, back, since ++ [turn], by simp, keeps,
        untaken_concat.2 ⟨untaken, by omega⟩, ?_⟩
      rw [length_kept_append, length_given_append]
      omega

theorem full_zero : Full id 0 turns :=
  ⟨[], List.nil_suffix, Nat.le_refl _⟩

theorem full_concat {count : Nat} (asked : 0 < count) : Full id count (turns ++ [turn]) ↔
    Full id (count + (given id [turn]).length - (kept id [turn]).length) turns := by
  have one := turn.length_le_one id
  constructor
  · rintro ⟨since, suffix, more⟩
    rcases List.suffix_concat_iff.1 suffix with rfl | ⟨before, rfl, inside⟩
    · simp only [kept, given, List.filterMap_nil, List.length_nil] at more
      omega
    · rw [length_given_append, length_kept_append] at more
      exact ⟨before, inside, by omega⟩
  · rintro ⟨since, suffix, more⟩
    refine ⟨since ++ [turn], List.suffix_concat_iff.2 (.inr ⟨since, rfl, suffix⟩), ?_⟩
    rw [length_given_append, length_kept_append]
    omega

/-- If more have been kept than acquired since some time, one of them is still there. -/
theorem Full.not_allTaken (more : Full id 1 turns) : ¬ AllTaken id turns := by
  -- On the turns, the first one split off: the buffer is kept in the last turn since which more
  -- have been kept than acquired.
  induction turns with
  | nil =>
      obtain ⟨since, suffix, more⟩ := more
      rw [List.suffix_nil.1 suffix] at more
      exact absurd more (Nat.not_succ_le_zero 0)
  | cons turn rest ih =>
      intro all_taken
      by_cases later : Full id 1 rest
      · refine ih later fun first back since cut => ?_
        exact all_taken (turn :: first) back since (cut ▸ rfl)
      · have balance : ∀ since, since <:+ rest → (kept id since).length ≤ (given id since).length :=
          fun since suffix => Nat.not_lt.1 fun less => later ⟨since, suffix, less⟩
        obtain ⟨since, suffix, more⟩ := more
        rcases List.suffix_cons_iff.1 suffix with rfl | inside
        · have whole := balance rest (List.suffix_refl _)
          have one := turn.length_le_one id
          rw [← List.singleton_append, length_kept_append, length_given_append] at more
          have keeps := (turn.isSome_keeps?_iff id).2 (by omega)
          refine all_taken [] turn rest rfl keeps ?_
          rintro part ⟨back, rfl⟩
          have end_balance := balance back (List.suffix_append _ _)
          rw [length_kept_append, length_given_append] at whole more
          omega
        · exact later ⟨since, inside, more⟩

/-- As long as a buffer is there, all that was kept after it is gone if as many have been
acquired. -/
theorem Untaken.allTaken_iff (untaken : Untaken id turns) :
    AllTaken id turns ↔ (kept id turns).length = (given id turns).length := by
  constructor
  · intro all_taken
    refine Nat.le_antisymm (Nat.not_lt.1 fun less => ?_) (untaken turns (List.prefix_refl _))
    exact Full.not_allTaken ⟨turns, List.suffix_refl _, less⟩ all_taken
  · rintro count first other rest rfl keeps still
    have one := other.length_le_one id
    have before := untaken first (List.prefix_append _ _)
    have after := still rest (List.prefix_refl _)
    have single := (other.isSome_keeps?_iff id).1 keeps
    rw [List.append_cons] at count
    simp only [length_kept_append, length_given_append] at count
    omega

/-- What a pool has kept is there until it is acquired as the latest of what is there. -/
theorem untaken_iff : Untaken id turns ↔
    ∀ mid turn rest, turns = mid ++ turn :: rest → (turn.gives? id).isSome →
      ¬ (Untaken id mid ∧ AllTaken id mid) := by
  constructor
  · rintro untaken mid turn rest rfl gives ⟨still, all_taken⟩
    have count := still.allTaken_iff.1 all_taken
    have one := turn.length_le_one id
    have single := (turn.isSome_gives?_iff id).1 gives
    have taken := untaken (mid ++ [turn]) ⟨rest, by simp⟩
    rw [length_kept_append, length_given_append] at taken
    omega
  · intro never
    induction turns using List.reverseRecOn with
    | nil => exact untaken_nil
    | append_singleton between last ih =>
        have still := ih fun mid turn rest cut => never mid turn (rest ++ [last]) (by simp [cut])
        refine untaken_concat.2 ⟨still, Nat.not_lt.1 fun less => ?_⟩
        have balance := still between (List.prefix_refl _)
        have one := last.length_le_one id
        have gives := (last.isSome_gives?_iff id).2 (by omega)
        exact never between last [] rfl gives ⟨still, still.allTaken_iff.2 (by omega)⟩

theorem latest_iff {buffer : Storage} : Latest id turns buffer ↔ Waits id turns 0 buffer := by
  unfold Latest Waits
  constructor
  · rintro ⟨first, back, since, cut, keeps, untaken, all_taken⟩
    exact ⟨first, back, since, cut, keeps, untaken, untaken.allTaken_iff.1 all_taken⟩
  · rintro ⟨first, back, since, cut, keeps, untaken, count⟩
    exact ⟨first, back, since, cut, keeps, untaken, untaken.allTaken_iff.2 count⟩

end Counts

/-! ## The history of a pool -/

section Runs

variable {shapes : List (Nat × Nat)} {id : PoolId} {turns first second : List Turn} {d : Depot}

theorem Sound.exists_place (sound : Sound shapes d) {size capacity : Nat}
    (made : shapes[id]? = some (size, capacity)) : ∃ pool : Pool,
      d.pools[id]? = some pool ∧ pool.id = id ∧ pool.size = size ∧ pool.capacity = capacity := by
  obtain ⟨inside, -⟩ := List.getElem?_eq_some_iff.1 made
  have place := List.getElem?_eq_getElem (sound.length_pools.symm ▸ inside)
  obtain ⟨shape, same⟩ := sound.shape_at place
  cases shape.symm.trans made
  exact ⟨_, place, same, rfl, rfl⟩

theorem not_mem_closedPools_of_append (opened : id ∉ closedPools (first ++ second)) :
    id ∉ closedPools first := by
  rw [closedPools, List.filterMap_append] at opened
  exact fun member => opened (List.mem_append_left _ member)

theorem Run.of_concat {turn : Turn} (ran : Run shapes (turns ++ [turn]) d) :
    Run shapes turns turn.before ∧ d = turn.after := by
  generalize whole : turns ++ [turn] = all at ran
  cases ran with
  | start => simp at whole
  | turn last earlier =>
      obtain ⟨rfl, same⟩ := List.append_inj' whole rfl
      cases same
      exact ⟨earlier, rfl⟩

theorem Run.of_append (ran : Run shapes (first ++ second) d) : ∃ start, Run shapes first start := by
  induction second using List.reverseRecOn generalizing d with
  | nil => exact ⟨d, List.append_nil first ▸ ran⟩
  | append_singleton between last ih =>
      rw [← List.append_assoc] at ran
      exact ih ran.of_concat.1

theorem idle_start (shapes : List (Nat × Nat)) (id : PoolId) : (start shapes).idle id = [] := by
  cases place : (start shapes).pools[id]? with
  | none => simp only [idle, place]
  | some pool =>
      obtain ⟨i, inside, rfl⟩ := List.mem_mapIdx.1 (List.mem_of_getElem? place)
      exact idle_of_place place

theorem Run.before {turn : Turn} (ran : Run shapes (first ++ turn :: second) d) :
    Run shapes first turn.before := by
  rw [List.append_cons] at ran
  obtain ⟨start, ran⟩ := ran.of_append
  exact ran.of_concat.1

/-- The law of a turn, for the last turn of a run. -/
theorem Run.idle_concat {turn : Turn} (earlier : Run shapes turns turn.before)
    (opened : id ∉ closedPools (turns ++ [turn])) :
    id ∉ closedPools turns ∧
      turn.after.idle id =
        kept id [turn] ++ (turn.before.idle id).drop (given id [turn]).length := by
  rw [mem_closedPools_concat, not_or] at opened
  exact ⟨opened.1, turn.idle_after earlier.sound opened.2⟩

/-- The `n`-th buffer that waits is the one that is still there with `n` kept after it. -/
theorem Run.getElem?_idle_iff (ran : Run shapes turns d) (opened : id ∉ closedPools turns) (n : Nat)
    (buffer : Storage) : (d.idle id)[n]? = some buffer ↔ Waits id turns n buffer := by
  induction ran generalizing n with
  | start => simp [idle_start, Waits]
  | turn turn earlier ih =>
      obtain ⟨opened, waiting⟩ := earlier.idle_concat opened
      rw [waiting, waits_concat]
      simp only [← ih opened, kept_singleton, given_singleton]
      rcases turn.keeps?_or_gives? id with none_kept | none_given
      · simp [none_kept, Nat.add_comm n]
      · cases keeps : turn.keeps? id with
        | none => simp [none_given]
        | some content => cases n <;> simp [none_given, eq_comm]

/-- As many wait as have been kept more than acquired since any one time, at most. -/
theorem Run.le_length_idle_iff (ran : Run shapes turns d) (opened : id ∉ closedPools turns)
    (count : Nat) : count ≤ (d.idle id).length ↔ Full id count turns := by
  induction ran generalizing count with
  | start => simp [idle_start, Full, kept, given]
  | turn turn earlier ih =>
      obtain ⟨opened, waiting⟩ := earlier.idle_concat opened
      rw [waiting, List.length_append, List.length_drop]
      rcases Nat.eq_zero_or_pos count with rfl | asked
      · exact iff_of_true (Nat.zero_le _) full_zero
      · rw [full_concat asked, ← ih opened]
        have one := turn.length_le_one id
        omega

theorem Run.allTaken_of_nil (ran : Run shapes turns d) (opened : id ∉ closedPools turns)
    (empty : d.idle id = []) : AllTaken id turns := by
  intro first back since cut some_kept untaken
  obtain ⟨buffer, keeps⟩ := Option.isSome_iff_exists.1 some_kept
  have balance := untaken since (List.prefix_refl _)
  have waits : Waits id turns ((kept id since).length - (given id since).length) buffer :=
    ⟨first, back, since, cut, keeps, untaken, by omega⟩
  rw [← ran.getElem?_idle_iff opened, empty] at waits
  cases waits

theorem Run.latest_of_cons (ran : Run shapes turns d) (opened : id ∉ closedPools turns)
    {buffer : Storage} {rest : List Storage} (waiting : d.idle id = buffer :: rest) :
    Latest id turns buffer := by
  have first : (d.idle id)[0]? = some buffer := by rw [waiting]; rfl
  exact latest_iff.2 ((ran.getElem?_idle_iff opened 0 buffer).1 first)

/-! ## Turns that only keep, and turns that only give -/

theorem Run.idle_of_given_nil (ran : Run shapes (first ++ second) d)
    (opened : id ∉ closedPools (first ++ second)) (none_given : given id second = []) :
    ∃ start, Run shapes first start ∧ d.idle id = (kept id second).reverse ++ start.idle id := by
  induction second using List.reverseRecOn generalizing d with
  | nil => exact ⟨d, List.append_nil first ▸ ran, rfl⟩
  | append_singleton between last ih =>
      rw [← List.append_assoc] at ran opened
      obtain ⟨earlier, rfl⟩ := ran.of_concat
      obtain ⟨opened, last_law⟩ := earlier.idle_concat opened
      rw [given_append, List.append_eq_nil_iff] at none_given
      obtain ⟨start, begins, waiting⟩ := ih earlier opened none_given.1
      refine ⟨start, begins, ?_⟩
      have single : (kept id [last]).reverse = kept id [last] := by
        rw [kept_singleton]
        cases last.keeps? id <;> rfl
      rw [last_law, none_given.2, kept_append, List.reverse_append, single, waiting,
        List.append_assoc]
      rfl

/-- Buffers that wait are given in their order, as long as there are enough of them. -/
theorem Run.given_append_idle (ran : Run shapes (first ++ second) d)
    (opened : id ∉ closedPools (first ++ second)) (none_kept : kept id second = []) :
    ∃ start, Run shapes first start ∧
      ((given id second).length ≤ (start.idle id).length →
        given id second ++ d.idle id = start.idle id) := by
  induction second using List.reverseRecOn generalizing d with
  | nil => exact ⟨d, List.append_nil first ▸ ran, fun _ => rfl⟩
  | append_singleton between last ih =>
      rw [← List.append_assoc] at ran opened
      obtain ⟨earlier, rfl⟩ := ran.of_concat
      rw [mem_closedPools_concat, not_or] at opened
      rw [kept_append, List.append_eq_nil_iff] at none_kept
      obtain ⟨start, begins, in_order⟩ := ih earlier opened.1 none_kept.1
      refine ⟨start, begins, fun enough => ?_⟩
      rw [length_given_append] at enough
      have before := in_order (Nat.le_trans (Nat.le_add_right _ _) enough)
      have left : (given id [last]).length ≤ (last.before.idle id).length := by
        have whole := congrArg List.length before
        rw [List.length_append] at whole
        omega
      rw [given_append, List.append_assoc,
        last.given_append_idle earlier.sound opened.2 none_kept.2 left, before]

/-! ## Recycles and acquires -/

/-- A pool keeps what it has lent unless it is full. -/
theorem Run.keeps?_iff {turn : Turn} (ran : Run shapes turns turn.before)
    (opened : id ∉ closedPools turns) {size capacity : Nat}
    (made : shapes[id]? = some (size, capacity)) {handle : Nat} {name : String} {loan : Loan}
    (op : turn.op = .recycle handle name) (stands : turn.before.handles[handle]? = some id)
    (held : turn.before.loan? name = some loan) (own : loan.owner = id) :
    turn.keeps? id = some loan.window.storage ↔ ¬ Full id capacity turns := by
  obtain ⟨pool, place, same, rfl, rfl⟩ := ran.sound.exists_place made
  have found : turn.before.pool? handle = some pool := by
    rw [ran.sound.pool?_eq, stands]
    exact place
  have not_closed : pool.closed = false := Bool.eq_false_iff.2 fun closed =>
    opened ((ran.isClosed_iff id).1 ⟨pool, place, closed⟩)
  rw [← ran.le_length_idle_iff opened, idle_of_place place, Nat.not_le,
    Turn.keeps?_of_recycle op found held]
  simp [same, own, not_closed]

/-- What is acquired is the latest buffer that is still there, or new. -/
theorem Run.acquires_latest {turn : Turn} (ran : Run shapes turns turn.before)
    (opened : id ∉ closedPools turns) {size capacity : Nat}
    (made : shapes[id]? = some (size, capacity)) {handle : Nat} {name : String}
    (op : turn.op = .acquire handle name) (stands : turn.before.handles[handle]? = some id) :
    ∃ loan, turn.after.loan? name = some loan ∧ loan.owner = id ∧
      loan.window = Window.full loan.window.storage ∧
      (Latest id turns loan.window.storage ∨
        AllTaken id turns ∧ loan.window.storage.toList = List.replicate size 0) := by
  obtain ⟨pool, loan, place, held, owner, full, -, buffer⟩ := turn.acquires ran.sound op stands
  refine ⟨loan, held, owner, full, ?_⟩
  cases waiting : turn.before.idle id with
  | nil =>
      obtain ⟨shape, -⟩ := ran.sound.shape_at place
      cases shape.symm.trans made
      refine .inr ⟨ran.allTaken_of_nil opened waiting, ?_⟩
      rw [buffer, waiting]
      exact Storage.toList_zeros _
  | cons first rest =>
      rw [buffer, waiting]
      exact .inl (ran.latest_of_cons opened waiting)

theorem Run.given_eq_reverse {puts takes : List Turn} (ran : Run shapes (first ++ puts ++ takes) d)
    (opened : id ∉ closedPools (first ++ puts ++ takes)) (none_given : given id puts = [])
    (none_kept : kept id takes = []) (same : (given id takes).length = (kept id puts).length) :
    given id takes = (kept id puts).reverse := by
  obtain ⟨middle, ran, in_order⟩ := ran.given_append_idle opened none_kept
  have opened := not_mem_closedPools_of_append opened
  obtain ⟨start, -, waiting⟩ := ran.idle_of_given_nil opened none_given
  have front : (given id takes).length = (kept id puts).reverse.length := by
    rw [List.length_reverse, same]
  rw [waiting, List.length_append, ← front] at in_order
  exact List.append_inj_left (in_order (Nat.le_add_right _ _)) front

end Runs

/-! ## Buffers that are used again -/

/-- What becomes of the buffers of a pool of a size and a capacity. -/
structure Reuses (id : PoolId) (size capacity : Nat) (turns : List Turn) : Prop where
  /-- A pool keeps what it has lent unless it is full. -/
  recycles : ∀ earlier turn later, turns = earlier ++ turn :: later →
    ∀ handle name loan, turn.op = .recycle handle name →
      turn.before.handles[handle]? = some id → turn.before.loan? name = some loan →
        loan.owner = id →
          (turn.keeps? id = some loan.window.storage ↔ ¬ Full id capacity earlier)
  /-- What is acquired is all of the buffer kept last and not acquired since, as it came back;
  if there is none, new zeros. -/
  acquires : ∀ earlier turn later, turns = earlier ++ turn :: later →
    ∀ handle name, turn.op = .acquire handle name → turn.before.handles[handle]? = some id →
      ∃ loan, turn.after.loan? name = some loan ∧ loan.owner = id ∧
        loan.window = Window.full loan.window.storage ∧
        (Latest id earlier loan.window.storage ∨
          AllTaken id earlier ∧ loan.window.storage.toList = List.replicate size 0)
  /-- What is kept is there until it is acquired as the latest of what is there. -/
  stays : ∀ since, Untaken id since ↔
    ∀ mid turn rest, since = mid ++ turn :: rest → (turn.gives? id).isSome →
      ¬ (Untaken id mid ∧ AllTaken id mid)
  /-- Buffers that are kept one after the other come back in the reverse order. -/
  reverses : ∀ earlier puts takes later, turns = earlier ++ puts ++ takes ++ later →
    given id puts = [] → kept id takes = [] →
      (given id takes).length = (kept id puts).length →
        given id takes = (kept id puts).reverse

/-- **What is acquired of an open pool is what it has kept last and not lent since, as it was when
it came back**, whatever has happened meanwhile to buffers on loan and to other pools. -/
theorem run_reuses {shapes : List (Nat × Nat)} {turns : List Turn} {d : Depot} {id : PoolId}
    {size capacity : Nat} (ran : Run shapes turns d) (made : shapes[id]? = some (size, capacity))
    (opened : id ∉ closedPools turns) : Reuses id size capacity turns := by
  refine ⟨?_, ?_, fun since => untaken_iff, ?_⟩
  · rintro earlier turn later rfl handle name loan op stands held own
    have opened := not_mem_closedPools_of_append opened
    exact ran.before.keeps?_iff opened made op stands held own
  · rintro earlier turn later rfl handle name op stands
    have opened := not_mem_closedPools_of_append opened
    exact ran.before.acquires_latest opened made op stands
  · rintro earlier puts takes later rfl none_given none_kept same
    obtain ⟨stop, ran⟩ := ran.of_append
    have opened := not_mem_closedPools_of_append opened
    exact ran.given_eq_reverse opened none_given none_kept same

/-- Three buffers come back to a pool that has room for two; the second one is acquired again
and written to, and comes back once more. -/
def reuseOps : List Op :=
  [.acquire 0 "a", .acquire 0 "b", .acquire 0 "c", .edit "a" (.fill 1), .edit "b" (.fill 2),
    .edit "c" (.fill 3), .recycle 0 "a", .recycle 0 "b", .recycle 0 "c", .acquire 1 "x",
    .acquire 0 "d", .edit "d" (.write 0 [9]), .recycle 0 "d", .acquire 0 "e", .acquire 0 "f",
    .acquire 0 "g"]

theorem reuses_after_example :
    ∃ turns d, Run [(2, 2), (1, 1)] turns d ∧ turns.map Turn.op = reuseOps ∧
      0 ∉ closedPools turns ∧
      d.held.map (fun entry => (entry.1, entry.2.window.storage.toList)) =
        [("g", [0, 0]), ("f", [1, 1]), ("e", [9, 2]), ("x", [0])] ∧
      Reuses 0 2 2 turns := by
  have outcome : ((start [(2, 2), (1, 1)]).after? reuseOps).map (fun d =>
      (d.pools.map fun pool => pool.closed,
        d.held.map fun entry => (entry.1, entry.2.window.storage.toList))) =
      some ([false, false], [("g", [0, 0]), ("f", [1, 1]), ("e", [9, 2]), ("x", [0])]) := by
    decide
  obtain ⟨d, used, told⟩ := Option.map_eq_some_iff.1 outcome
  obtain ⟨turns, ran, ops⟩ := exists_run .start reuseOps used
  have opened : 0 ∉ closedPools turns := by
    rintro closes
    obtain ⟨pool, place, closed⟩ := (Run.isClosed_iff ran 0).2 closes
    have first := congrArg (·[0]?) (congrArg Prod.fst told)
    simp only [List.getElem?_map, place, Option.map_some, closed] at first
    exact absurd first (by decide)
  exact ⟨turns, d, ran, ops, opened, congrArg Prod.snd told, run_reuses ran rfl opened⟩

end MediaTransport.Depot
