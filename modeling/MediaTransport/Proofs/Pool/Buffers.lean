/-
# MediaTransport.Proofs.Pool.Buffers -- every buffer of a pool has the pool's size

`Uniform` says that of the buffers that wait, `Lent` of a buffer on loan.  A pool that
is uniform lends buffers of its size (`lent_acquire`) and stays uniform whatever is
given back to it, since a buffer is fitted to the size of the pool on its way in.

The identity, the size and the capacity of a pool never change, so `Lent` survives all
that happens to the pool (`Lent.congr`).

`WellKept` says the same of the size, and besides that no more buffers wait than there is
room for, and none once the pool is closed.  A buffer that comes back to a pool that lent it
is put in front as it is (`recycle_lent`), and is the next one to be lent
(`acquire_of_cons`).
-/
import MediaTransport.Pool

namespace MediaTransport.Pool

set_option autoImplicit false

/-- The waiting buffers all have the size of the pool. -/
def Uniform (p : Pool) : Prop :=
  ∀ buffer ∈ p.idle, buffer.size = p.size

/-- A buffer that this pool has lent. -/
structure Lent (p : Pool) (loan : Loan) : Prop where
  owner : loan.owner = p.id
  capacity : loan.window.capacity = p.size

theorem Lent.congr {p q : Pool} {loan : Loan} (lent : p.Lent loan) (id : q.id = p.id)
    (size : q.size = p.size) : q.Lent loan :=
  ⟨lent.owner.trans id.symm, lent.capacity.trans size.symm⟩

/-! ## What stays the same -/

section Frame

variable (p : Pool) (loan : Loan)

@[simp] theorem acquire_id : p.acquire.2.id = p.id := by
  unfold acquire; split <;> rfl

@[simp] theorem acquire_size : p.acquire.2.size = p.size := by
  unfold acquire; split <;> rfl

@[simp] theorem acquire_capacity : p.acquire.2.capacity = p.capacity := by
  unfold acquire; split <;> rfl

@[simp] theorem acquire_closed : p.acquire.2.closed = p.closed := by
  unfold acquire; split <;> rfl

@[simp] theorem recycle_id : (p.recycle loan).id = p.id := by
  unfold recycle
  split
  · rfl
  · split <;> rfl

@[simp] theorem recycle_size : (p.recycle loan).size = p.size := by
  unfold recycle
  split
  · rfl
  · split <;> rfl

@[simp] theorem recycle_capacity : (p.recycle loan).capacity = p.capacity := by
  unfold recycle
  split
  · rfl
  · split <;> rfl

@[simp] theorem recycle_closed : (p.recycle loan).closed = p.closed := by
  unfold recycle
  split
  · rfl
  · split <;> rfl

@[simp] theorem close_closed : p.close.closed = true := rfl

end Frame

/-! ## Sizes -/

theorem uniform_acquire {p : Pool} (uniform : p.Uniform) : p.acquire.2.Uniform := by
  unfold acquire
  split
  · rename_i buffer rest idle
    intro other member
    exact uniform other (idle ▸ List.mem_cons_of_mem _ member)
  · exact uniform

/-- A uniform pool lends a buffer of its own size, seen as a whole. -/
theorem lent_acquire {p : Pool} (uniform : p.Uniform) : p.Lent p.acquire.1 := by
  unfold acquire
  split
  · rename_i buffer rest idle
    exact ⟨rfl, uniform buffer (idle ▸ List.mem_cons_self)⟩
  · exact ⟨rfl, rfl⟩

theorem uniform_recycle {p : Pool} (uniform : p.Uniform) (loan : Loan) :
    (p.recycle loan).Uniform := by
  unfold recycle
  split
  · exact uniform
  · split
    · intro buffer member
      rcases List.mem_cons.1 member with rfl | inIdle
      · rfl
      · exact uniform buffer inIdle
    · exact uniform

theorem uniform_close (p : Pool) : p.close.Uniform := by
  intro buffer member
  simp [close] at member

/-! ## What waits -/

@[simp] theorem acquire_owner (p : Pool) : p.acquire.1.owner = p.id := by
  unfold acquire; split <;> rfl

/-- A buffer is lent with a window over all of it. -/
theorem acquire_window (p : Pool) : p.acquire.1.window.offset = 0 ∧
    p.acquire.1.window.length = p.acquire.1.window.capacity := by
  unfold acquire; split <;> exact ⟨rfl, rfl⟩

theorem acquire_of_nil {p : Pool} (empty : p.idle = []) :
    p.acquire = (⟨p.id, Window.full (Storage.zeros p.size)⟩, p) := by
  unfold acquire
  split
  · rename_i idle
    cases empty.symm.trans idle
  · rfl

theorem acquire_of_cons {p : Pool} {buffer : Storage} {rest : List Storage}
    (idle : p.idle = buffer :: rest) :
    p.acquire = (⟨p.id, Window.full buffer⟩, { p with idle := rest }) := by
  unfold acquire
  split
  · rename_i same
    cases idle.symm.trans same
    rfl
  · rename_i empty
    cases idle.symm.trans empty

theorem acquire_idle (p : Pool) : p.acquire.2.idle = p.idle.tail := by
  cases idle : p.idle with
  | nil => rw [acquire_of_nil idle, idle]; rfl
  | cons buffer rest => rw [acquire_of_cons idle]; rfl

/-- The buffer of another pool is not taken. -/
theorem recycle_foreign {p : Pool} {loan : Loan} (foreign : loan.owner ≠ p.id) :
    p.recycle loan = p :=
  if_pos (.inl foreign)

/-- A pool takes back what it has lent as it is, unless it is closed or full. -/
theorem recycle_lent {p : Pool} {loan : Loan} (lent : p.Lent loan) :
    p.recycle loan =
      if p.closed ∨ p.capacity ≤ p.idle.length then p
      else { p with idle := loan.window.storage :: p.idle } := by
  have fitted : loan.window.storage.fit p.size = loan.window.storage := by
    rw [← lent.capacity]
    exact Storage.fit_size _
  unfold recycle
  rw [fitted]
  cases closed : p.closed with
  | true => simp
  | false =>
      by_cases full : p.capacity ≤ p.idle.length
      · simp [lent.owner, full, Nat.not_lt.2 full]
      · simp [lent.owner, full, Nat.lt_of_not_le full]

/-- What a pool keeps to whatever happens to it. -/
structure WellKept (p : Pool) : Prop where
  uniform : p.Uniform
  bounded : p.idle.length ≤ p.capacity
  drained : p.closed = true → p.idle = []

namespace WellKept

variable {p : Pool}

theorem of_empty (empty : p.idle = []) : p.WellKept where
  uniform := by simp [Uniform, empty]
  bounded := by simp [empty]
  drained := fun _ => empty

theorem acquire (kept : p.WellKept) : p.acquire.2.WellKept where
  uniform := uniform_acquire kept.uniform
  bounded := by
    have := kept.bounded
    rw [acquire_idle, acquire_capacity, List.length_tail]
    omega
  drained closed := by
    rw [acquire_idle, kept.drained (p.acquire_closed ▸ closed)]
    rfl

theorem recycle (kept : p.WellKept) (loan : Loan) : (p.recycle loan).WellKept := by
  refine ⟨uniform_recycle kept.uniform loan, ?_, ?_⟩
  · unfold Pool.recycle
    split
    · exact kept.bounded
    · split
      · rename_i room
        exact room
      · exact kept.bounded
  · intro closed
    rw [recycle_closed] at closed
    rw [Pool.recycle, if_pos (.inr closed)]
    exact kept.drained closed

theorem close (p : Pool) : p.close.WellKept :=
  of_empty rfl

end WellKept

/-! ## Validity -/

/-- What a pool has lent is invalid exactly when the pool is closed. -/
theorem Lent.invalidates {p : Pool} {loan : Loan} (lent : p.Lent loan) :
    p.invalidates loan = p.closed := by
  simp [Pool.invalidates, lent.owner]

end MediaTransport.Pool
