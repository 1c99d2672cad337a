/-
# MediaTransport.Proofs.Connector.Buffers -- where the buffers of a connector are

A buffer of an open connector waits in the pool, is in a receive that waits for the socket, or
is in the hands of a caller.  `Moves` says how each step moves buffers between these places,
and there is one case for each way.  Two accounts are drawn from it.

For one receive, its motions follow one another in pairs: a buffer is lent and comes back, as
often as a packet is skipped, and at last one is lent and handed out (`Run.motions`).

For all buffers together, `total` counts them where they are.  It grows by one whenever a
buffer is made, and never shrinks, as long as nothing is thrown away and the pool has room for
all buffers that callers and receives can have at once (`Run.economical`).
-/
import MediaTransport.Proofs.Connector.LifeCycle

namespace MediaTransport

set_option autoImplicit false

namespace Connector

/-! ## The buffer of a receive -/

/-- Whether a buffer is the one that a receive was lent, with what the socket has stored in
it. -/
def Carries (loan : Loan) (arrival : Arrival) (given : Loan) : Prop :=
  ∃ bytes claimed source, arrival = .packet bytes claimed source ∧
    given.owner = loan.owner ∧ given.window.storage = (filled loan bytes).window.storage

section Carries

variable {c d : Connector} {now : Tick} {loan given : Loan} {arrival : Arrival}
  {actions : List Action}

theorem Carries.lent {p : Pool} (carries : Carries loan arrival given) (lent : p.Lent loan) :
    p.Lent given := by
  obtain ⟨bytes, claimed, source, -, owner, storage⟩ := carries
  exact ⟨owner.trans lent.owner, (congrArg Storage.size storage).trans
    ((filled_capacity loan bytes).trans lent.capacity)⟩

/-- The buffer of a packet that is skipped goes back at once. -/
theorem pool_of_skip (lent : loan.window.capacity = c.pool.size)
    (taken : c.take now loan arrival = (.continue, d, actions)) :
    ∃ given, Carries loan arrival given ∧ d.pool = c.pool.recycle given := by
  have skipped := (taken_of_take now lent taken).fate
  cases arrival with
  | failed fault => rcases skipped with fate | fate <;> cases fate
  | packet bytes claimed source =>
      rcases skipped with rejected | truncated
      · obtain ⟨window, f, -, -, storage, -, answer⟩ := take_rejected now lent rejected
        cases taken.symm.trans answer
        exact ⟨⟨loan.owner, window⟩, ⟨bytes, claimed, source, rfl, rfl, storage⟩, rfl⟩
      · cases taken.symm.trans (take_truncated now lent truncated)
        exact ⟨filled loan bytes, ⟨bytes, claimed, source, rfl, rfl, rfl⟩, rfl⟩

/-- A packet that is delivered is in the buffer of its receive. -/
theorem pool_of_deliver (lent : loan.window.capacity = c.pool.size) {packet : Received}
    (taken : c.take now loan arrival = (.done (.ok packet), d, actions)) :
    Carries loan arrival packet.loan ∧ d.pool = c.pool := by
  have delivered := (taken_of_take now lent taken).fate
  cases arrival with
  | failed fault => cases delivered
  | packet bytes claimed source =>
      obtain ⟨window, storage, -, -, -, answer⟩ := take_delivered now lent delivered
      cases taken.symm.trans answer
      exact ⟨⟨bytes, claimed, source, rfl, rfl, storage⟩, rfl⟩

end Carries

end Connector

namespace Call

/-- The buffer that a call holds, if it is a receive and holds one. -/
def loan? : Call → Option Loan
  | .waiting loan => some loan
  | _ => none

def waits (call : Call) : Bool :=
  call.loan?.isSome

/-- Whether a call is a receive under way. -/
def receives : Call → Bool
  | .looking | .waiting _ => true
  | _ => false

theorem loan?_of_idle {call : Call} (idle : call.receives = false) : call.loan? = none := by
  cases call with
  | waiting loan => cases idle
  | looking | offered bytes | finished => rfl

end Call

namespace Traffic

/-! ## Motions -/

/-- The buffer that a receive holds, if it is one and holds one. -/
def loan? (t : Traffic) (call : Nat) : Option Loan :=
  t.calls[call]?.bind Call.loan?

/-- A motion of a buffer, seen from a receive. -/
inductive Motion where
  /-- A buffer is taken from the pool. -/
  | lent
  /-- The buffer of a packet that is skipped goes back to the pool. -/
  | back
  /-- The buffer goes to the caller, with a packet in it. -/
  | out
  /-- The receive is given up, and its buffer with it. -/
  | lost
  deriving DecidableEq

/-- The motion that a step means to a receive. -/
def motion? (t : Traffic) (op : Op) (outcome : Option Outcome) (call : Nat) : Option Motion :=
  match op, outcome with
  | .receive, none => if t.calls.length = call then some .lent else none
  | .resume other, none => if other = call then some .lent else none
  | .take other _, none => if other = call then some .back else none
  | .take other _, some (.received (.ok _)) => if other = call then some .out else none
  | .cancel other, _ => if other = call ∧ (t.loan? other).isSome then some .lost else none
  | _, _ => none

/-- How a step on an open connector moves buffers. -/
inductive Moves (t : Traffic) : Op → Option Outcome → Traffic → Prop where
  /-- A receive begins with a buffer from the pool. -/
  | begin {u : Traffic} (pool : u.connector.pool = t.connector.pool.acquire.2)
      (calls : u.calls = t.calls ++ [.waiting t.connector.pool.acquire.1])
      (held : u.held = t.held) : Moves t .receive none u
  /-- A receive goes on with a buffer from the pool; it had none. -/
  | resume {call : Nat} {u : Traffic} (found : t.calls[call]? = some .looking)
      (pool : u.connector.pool = t.connector.pool.acquire.2)
      (calls : u.calls = t.calls.set call (.waiting t.connector.pool.acquire.1))
      (held : u.held = t.held) : Moves t (.resume call) none u
  /-- A receive that skips a packet gives its buffer back. -/
  | skip {call : Nat} {loan given : Loan} {arrival : Arrival} {u : Traffic}
      (found : t.calls[call]? = some (.waiting loan))
      (carries : Connector.Carries loan arrival given)
      (pool : u.connector.pool = t.connector.pool.recycle given)
      (calls : u.calls = t.calls.set call .looking) (held : u.held = t.held) :
      Moves t (.take call arrival) none u
  /-- A receive that returns hands its buffer out. -/
  | deliver {call : Nat} {loan : Loan} {arrival : Arrival} {packet : Received} {u : Traffic}
      (found : t.calls[call]? = some (.waiting loan))
      (carries : Connector.Carries loan arrival packet.loan)
      (pool : u.connector.pool = t.connector.pool)
      (calls : u.calls = t.calls.set call .finished) (held : u.held = t.held ++ [packet]) :
      Moves t (.take call arrival) (some (.received (.ok packet))) u
  /-- The buffer of a receive that is given up is lost. -/
  | abandon {call : Nat} {loan : Loan} {u : Traffic}
      (found : t.calls[call]? = some (.waiting loan))
      (pool : u.connector.pool = t.connector.pool)
      (calls : u.calls = t.calls.set call .finished) (held : u.held = t.held) :
      Moves t (.cancel call) none u
  /-- A caller gives a buffer back. -/
  | recycle {index : Nat} {packet : Received} {u : Traffic}
      (found : t.held[index]? = some packet)
      (pool : u.connector.pool = t.connector.pool.recycle packet.loan)
      (calls : u.calls = t.calls) (held : u.held = t.held.eraseIdx index) :
      Moves t (.recycle index) none u
  /-- A caller throws a buffer away. -/
  | free {index : Nat} {packet : Received} {u : Traffic}
      (found : t.held[index]? = some packet)
      (pool : u.connector.pool = t.connector.pool)
      (calls : u.calls = t.calls) (held : u.held = t.held.eraseIdx index) :
      Moves t (.free index) none u
  /-- Every buffer stays where it is. -/
  | rest {op : Op} {outcome : Option Outcome} {u : Traffic}
      (still : ∀ call, t.motion? op outcome call = none)
      (pool : u.connector.pool = t.connector.pool)
      (waits : u.calls.countP Call.waits = t.calls.countP Call.waits)
      (receives : u.calls.countP Call.receives = t.calls.countP Call.receives)
      (loans : ∀ call, u.loan? call = t.loan? call)
      (finished : ∀ call : Nat, t.calls[call]? = some .finished → u.calls[call]? = some .finished)
      (held : u.held.length = t.held.length) : Moves t op outcome u

/-- Whether the connector is open after a turn, and the socket has kept to its room. -/
structure Turn.Serves (turn : Turn) : Prop where
  opened : turn.after.connector.closed = false
  honest : turn.Honest

section Calls

variable {t u : Traffic} {calls : List Call} {place : Nat} {old new : Call}

theorem countP_set_of_getElem? (p : Call → Bool) (found : calls[place]? = some old) (new : Call) :
    (calls.set place new).countP p + (if p old then 1 else 0) =
      calls.countP p + if p new then 1 else 0 := by
  obtain ⟨inside, same⟩ := List.getElem?_eq_some_iff.1 found
  have positive : p old = true → 0 < calls.countP p := fun held =>
    List.countP_pos_iff.2 ⟨old, List.mem_of_getElem? found, held⟩
  rw [List.countP_set inside, same]
  split
  · rename_i held
    have := positive held
    omega
  · omega

theorem loan?_of_waiting {loan : Loan} (found : t.calls[place]? = some (.waiting loan)) :
    t.loan? place = some loan := by
  simp [loan?, found, Call.loan?]

theorem loan?_of_set (found : t.calls[place]? = some old) (calls : u.calls = t.calls.set place new)
    (call : Nat) : u.loan? call = if place = call then new.loan? else t.loan? call := by
  simp only [loan?, calls, List.getElem?_set]
  by_cases here : place = call
  · subst here
    rw [if_pos rfl, if_pos (List.getElem?_eq_some_iff.1 found).1, if_pos rfl]
    rfl
  · rw [if_neg here, if_neg here]

theorem loan?_of_append (calls : u.calls = t.calls ++ [new]) (call : Nat) :
    u.loan? call = if t.calls.length = call then new.loan? else t.loan? call := by
  simp only [loan?, calls, List.getElem?_append]
  by_cases inside : call < t.calls.length
  · rw [if_pos inside, if_neg (Nat.ne_of_gt inside)]
  · rw [if_neg inside, List.getElem?_eq_none (Nat.le_of_not_lt inside)]
    by_cases here : t.calls.length = call
    · simp [here]
    · have beyond : 1 ≤ call - t.calls.length := by omega
      rw [if_neg here, List.getElem?_eq_none (by simpa using beyond)]

/-- A call that has finished is not set again. -/
theorem finished_of_set (found : t.calls[place]? = some old)
    (calls : u.calls = t.calls.set place new) (running : old = .finished → new = .finished)
    {call : Nat} (finished : t.calls[call]? = some .finished) :
    u.calls[call]? = some .finished := by
  rw [calls, List.getElem?_set]
  by_cases here : place = call
  · subst here
    rw [found] at finished
    have inside := (List.getElem?_eq_some_iff.1 found).1
    rw [if_pos rfl, if_pos inside, running (Option.some.inj finished)]
  · rw [if_neg here]
    exact finished

theorem finished_of_append (calls : u.calls = t.calls ++ [new]) {call : Nat}
    (finished : t.calls[call]? = some .finished) : u.calls[call]? = some .finished := by
  rw [calls, List.getElem?_append_left (List.getElem?_eq_some_iff.1 finished).1]
  exact finished

/-- A call that holds no buffer before and after it changes leaves the receives alone. -/
theorem rest_set {op : Op} {outcome : Option Outcome}
    (still : ∀ call, t.motion? op outcome call = none)
    (found : t.calls[place]? = some old) (idle : old.receives = false)
    (pool : u.connector.pool = t.connector.pool) (calls : u.calls = t.calls.set place .finished)
    (held : u.held = t.held) : Moves t op outcome u := by
  have quiet := Call.loan?_of_idle idle
  refine .rest still pool ?_ ?_ (fun call => ?_) (fun call finished => ?_) (congrArg _ held)
  · have counted := countP_set_of_getElem? Call.waits found .finished
    simp only [Call.waits, quiet] at counted
    rw [calls]
    exact counted
  · have counted := countP_set_of_getElem? Call.receives found .finished
    simp only [idle] at counted
    rw [calls]
    exact counted
  · rw [loan?_of_set found calls]
    split
    · rename_i here
      rw [loan?, ← here, found]
      exact quiet.symm
    · rfl
  · exact finished_of_set found calls (fun _ => rfl) finished

/-- A call that is added and holds no buffer leaves the receives alone. -/
theorem rest_append {op : Op} {outcome : Option Outcome}
    (still : ∀ call, t.motion? op outcome call = none) (idle : new.receives = false)
    (pool : u.connector.pool = t.connector.pool) (calls : u.calls = t.calls ++ [new])
    (held : u.held = t.held) : Moves t op outcome u := by
  have quiet := Call.loan?_of_idle idle
  refine .rest still pool ?_ ?_ (fun call => ?_) (fun call finished => ?_) (congrArg _ held)
  · simp [calls, List.countP_append, Call.waits, quiet]
  · simp [calls, List.countP_append, idle]
  · rw [loan?_of_append calls]
    split
    · rename_i here
      rw [quiet, loan?, List.getElem?_eq_none (Nat.le_of_eq here)]
      rfl
    · rfl
  · exact finished_of_append calls finished

/-- Calls that stay as they are. -/
theorem rest_same {op : Op} {outcome : Option Outcome}
    (still : ∀ call, t.motion? op outcome call = none)
    (pool : u.connector.pool = t.connector.pool) (calls : u.calls = t.calls)
    (held : u.held.length = t.held.length) : Moves t op outcome u :=
  .rest still pool (by rw [calls]) (by rw [calls]) (fun call => by simp only [loan?, calls])
    (fun call finished => by rw [calls, finished]) held

end Calls

/-- A turn on an open connector moves buffers in one of these ways. -/
theorem Turn.moves (turn : Turn) (sound : Sound turn.before) (serves : turn.Serves) :
    Moves turn.before turn.op turn.effect.outcome turn.after := by
  obtain ⟨opened, honest⟩ := serves
  obtain ⟨t, op, effect, u, step⟩ := turn
  have ends : ∀ {c : Connector} {actions : List Connector.Action},
      Connector.Ended t.connector c actions → c.closed = true := fun ended =>
    congrArg Connector.Standing.closed ended.standing
  cases step with
  | receive entered =>
      rw [Connector.enter_open (Connector.goesOn_enter entered).1] at entered
      cases entered
      exact .begin rfl rfl rfl
  | receiveClosed entered =>
      have ended := (Connector.ended_enter entered).2.1
      cases opened.symm.trans (congrArg Connector.Standing.closed ended.standing)
  | resume found entered =>
      rw [Connector.enter_open (Connector.goesOn_enter entered).1] at entered
      cases entered
      exact .resume found rfl rfl rfl
  | resumeClosed found entered =>
      cases opened.symm.trans (ends (Connector.ended_enter entered).2.1)
  | skip found taken =>
      obtain ⟨given, carries, pool⟩ :=
        Connector.pool_of_skip (sound.lent_of_waiting found).capacity taken
      exact .skip found carries pool rfl rfl
  | deliver found taken =>
      obtain ⟨carries, pool⟩ :=
        Connector.pool_of_deliver (sound.lent_of_waiting found).capacity taken
      exact .deliver found carries pool rfl rfl
  | refuse found taken =>
      have taken := Connector.taken_of_take t.now (sound.lent_of_waiting found).capacity taken
      cases opened.symm.trans (ends (taken.terminal (honest _ _ _ rfl found)).2)
  | @stop call loan found closed =>
      cases opened.symm.trans (ends (t.connector.ended_fail loan))
  | send opened => exact rest_append (fun _ => rfl) rfl rfl rfl rfl
  | sendClosed closed => exact rest_append (fun _ => rfl) rfl rfl rfl rfl
  | @answer call bytes answer result c actions found concluded =>
      have pool := (t.connector.conclude_keeps t.now bytes answer).2
      rw [concluded] at pool
      exact rest_set (fun _ => rfl) found rfl pool rfl rfl
  | cancelReceive found => exact .abandon found rfl rfl rfl
  | @cancelSend call bytes found =>
      have still : ∀ other, t.motion? (.cancel call) none other = none := by
        simp [motion?, loan?, found, Call.loan?]
      exact rest_set still found rfl rfl rfl rfl
  | recycle found => exact .recycle found rfl rfl rfl
  | recycleOther other =>
      exact rest_same (fun _ => rfl) (Pool.recycle_foreign other) rfl rfl
  | free found => exact .free found rfl rfl rfl
  | edit found => exact rest_same (fun _ => rfl) rfl rfl (List.length_set ..)
  | close => cases opened.symm.trans (ends t.connector.ended_close)
  | markClosed => cases opened
  | advance => exact rest_same (fun _ => rfl) rfl rfl rfl

/-! ## The motions of one receive -/

/-- What a motion tells of a receive before and after it. -/
def Motion.Tells (t u : Traffic) (call : Nat) : Option Motion → Prop
  | none => u.loan? call = t.loan? call
  | some .lent => t.loan? call = none ∧ (u.loan? call).isSome = true
  | some .back => (t.loan? call).isSome = true ∧ u.loan? call = none
  | some .out | some .lost =>
    (t.loan? call).isSome = true ∧ u.calls[call]? = some .finished

section Moves

variable {t u : Traffic} {op : Op} {outcome : Option Outcome}

theorem Moves.tells (moves : Moves t op outcome u) (call : Nat) :
    Motion.Tells t u call (t.motion? op outcome call) := by
  cases moves with
  | begin pool calls held =>
      have lookup := loan?_of_append calls call
      by_cases here : t.calls.length = call
      · have fresh : t.loan? call = none := by
          rw [loan?, List.getElem?_eq_none (Nat.le_of_eq here)]
          rfl
        rw [if_pos here] at lookup
        simp only [motion?, if_pos here, Motion.Tells]
        exact ⟨fresh, by rw [lookup]; rfl⟩
      · rw [if_neg here] at lookup
        simpa only [motion?, if_neg here, Motion.Tells] using lookup
  | @resume other _ found pool calls held =>
      have lookup := loan?_of_set found calls call
      by_cases here : other = call
      · subst here
        rw [if_pos rfl] at lookup
        simp only [motion?, if_true, Motion.Tells]
        exact ⟨by rw [loan?, found]; rfl, by rw [lookup]; rfl⟩
      · rw [if_neg here] at lookup
        simpa only [motion?, if_neg here, Motion.Tells] using lookup
  | @skip other loan _ _ _ found carries pool calls held =>
      have lookup := loan?_of_set found calls call
      by_cases here : other = call
      · subst here
        rw [if_pos rfl] at lookup
        simp only [motion?, if_true, Motion.Tells]
        exact ⟨by rw [loan?_of_waiting found]; rfl, lookup⟩
      · rw [if_neg here] at lookup
        simpa only [motion?, if_neg here, Motion.Tells] using lookup
  | @deliver other loan _ _ _ found carries pool calls held =>
      have lookup := loan?_of_set found calls call
      by_cases here : other = call
      · subst here
        simp only [motion?, if_true, Motion.Tells]
        exact ⟨by rw [loan?_of_waiting found]; rfl, by rw [calls, getElem?_set_of_getElem? found]⟩
      · rw [if_neg here] at lookup
        simpa only [motion?, if_neg here, Motion.Tells] using lookup
  | @abandon other loan _ found pool calls held =>
      have lookup := loan?_of_set found calls call
      have held_buffer := loan?_of_waiting found
      by_cases here : other = call
      · subst here
        simp only [motion?, held_buffer, Option.isSome_some, and_self, if_true, Motion.Tells]
        exact ⟨trivial, by rw [calls, getElem?_set_of_getElem? found]⟩
      · rw [if_neg here] at lookup
        simpa only [motion?, here, false_and, if_false, Motion.Tells] using lookup
  | recycle found pool calls held => simp only [motion?, Motion.Tells, loan?, calls]
  | free found pool calls held => simp only [motion?, Motion.Tells, loan?, calls]
  | rest still pool waits receives loans finished held =>
      rw [still call]
      exact loans call

/-- A receive that has returned takes no further part. -/
theorem Moves.finished (moves : Moves t op outcome u) {call : Nat}
    (finished : t.calls[call]? = some .finished) :
    t.motion? op outcome call = none ∧ u.calls[call]? = some .finished := by
  have idle : t.loan? call = none := by
    rw [loan?, finished]
    rfl
  have unlent : ∀ {other : Nat} {loan : Loan}, t.calls[other]? = some (.waiting loan) →
      other ≠ call := by
    rintro other loan found rfl
    cases finished.symm.trans found
  cases moves with
  | begin pool calls held =>
      have inside := (List.getElem?_eq_some_iff.1 finished).1
      exact ⟨if_neg (Nat.ne_of_gt inside), finished_of_append calls finished⟩
  | @resume other _ found pool calls held =>
      have ne : other ≠ call := by
        rintro rfl
        cases finished.symm.trans found
      exact ⟨if_neg ne, finished_of_set found calls nofun finished⟩
  | skip found carries pool calls held =>
      exact ⟨if_neg (unlent found), finished_of_set found calls nofun finished⟩
  | deliver found carries pool calls held =>
      exact ⟨if_neg (unlent found), finished_of_set found calls nofun finished⟩
  | abandon found pool calls held =>
      exact ⟨if_neg fun here => unlent found here.1, finished_of_set found calls nofun finished⟩
  | recycle found pool calls held => exact ⟨rfl, by rw [calls, finished]⟩
  | free found pool calls held => exact ⟨rfl, by rw [calls, finished]⟩
  | rest still pool waits receives loans kept held => exact ⟨still call, kept call finished⟩

end Moves

/-- The motion that a turn means to a receive. -/
def Turn.motion? (turn : Turn) (call : Nat) : Option Motion :=
  turn.before.motion? turn.op turn.effect.outcome call

/-- The motions of a receive, in order. -/
def motions (call : Nat) (turns : List Turn) : List Motion :=
  turns.filterMap (·.motion? call)

/-- The motion that a receive is in the middle of. -/
def pending (t : Traffic) (call : Nat) : List Motion :=
  if (t.loan? call).isSome then [.lent] else []

/-- The last motions of a receive, after those of the packets that it has skipped. -/
inductive Course (t : Traffic) (call : Nat) : List Motion → Prop where
  | idle (nothing : t.loan? call = none) : Course t call []
  | waits {loan : Loan} (holds : t.loan? call = some loan) : Course t call [.lent]
  | returned (finished : t.calls[call]? = some .finished) : Course t call [.lent, .out]
  | lost (finished : t.calls[call]? = some .finished) : Course t call [.lent, .lost]

theorem pending_of_idle {t : Traffic} {call : Nat} (idle : t.loan? call = none) :
    t.pending call = [] := by
  rw [pending, idle]
  rfl

theorem pending_of_holds {t : Traffic} {call : Nat} (holds : (t.loan? call).isSome = true) :
    t.pending call = [.lent] :=
  if_pos holds

theorem course_pending (t : Traffic) (call : Nat) : t.Course call (t.pending call) := by
  unfold pending
  cases holds : t.loan? call with
  | none => exact .idle holds
  | some loan => exact .waits holds

section Runs

variable {t u : Traffic} {turns : List Turn}

theorem motions_cons (call : Nat) (head : Turn) (rest : List Turn) :
    motions call (head :: rest) = (head.motion? call).toList ++ motions call rest := by
  unfold motions
  cases motion : head.motion? call <;> simp [motion]

theorem Run.motions_of_finished (ran : Run t turns u)
    (moves : ∀ turn ∈ turns, Moves turn.before turn.op turn.effect.outcome turn.after) {call : Nat}
    (finished : t.calls[call]? = some .finished) :
    Traffic.motions call turns = [] ∧ u.calls[call]? = some .finished := by
  induction ran with
  | stop t => exact ⟨rfl, finished⟩
  | turn head later ih =>
      obtain ⟨still, next⟩ := (moves head List.mem_cons_self).finished finished
      change head.motion? call = none at still
      have moves_rest := fun turn member => moves turn (List.mem_cons_of_mem head member)
      obtain ⟨quiet, last⟩ := ih moves_rest next
      rw [motions_cons, still, quiet]
      exact ⟨rfl, last⟩

/-- **A receive gives back the buffer of every packet that it skips before it is lent the next,
and keeps the last one until it returns.** -/
theorem Run.motions (ran : Run t turns u)
    (moves : ∀ turn ∈ turns, Moves turn.before turn.op turn.effect.outcome turn.after)
    (call : Nat) : ∃ skipped last,
      t.pending call ++ motions call turns =
        (List.replicate skipped [Motion.lent, Motion.back]).flatten ++ last ∧
      u.Course call last := by
  induction ran with
  | stop t => exact ⟨0, t.pending call, List.append_nil _, t.course_pending call⟩
  | @turn head rest u later ih =>
      have tells := (moves head List.mem_cons_self).tells call
      change Motion.Tells _ _ _ (head.motion? call) at tells
      have moves_rest := fun turn member => moves turn (List.mem_cons_of_mem head member)
      obtain ⟨skipped, last, following, course⟩ := ih moves_rest
      rw [motions_cons]
      cases motion : head.motion? call with
      | none =>
          rw [motion] at tells
          have same : head.after.pending call = head.before.pending call := by
            rw [pending, pending, show head.after.loan? call = _ from tells]
          exact ⟨skipped, last, same ▸ following, course⟩
      | some kind =>
          rw [motion] at tells
          cases kind with
          | lent =>
              obtain ⟨idle, holds⟩ := tells
              rw [pending_of_holds holds] at following
              rw [pending_of_idle idle]
              exact ⟨skipped, last, following, course⟩
          | back =>
              obtain ⟨holds, idle⟩ := tells
              rw [pending_of_idle idle, List.nil_append] at following
              rw [pending_of_holds holds]
              refine ⟨skipped + 1, last, ?_, course⟩
              rw [List.replicate_succ, List.flatten_cons, List.append_assoc, ← following]
              rfl
          | out =>
              -- The receive has returned, so this is its last motion.
              obtain ⟨holds, finished⟩ := tells
              obtain ⟨quiet, stays⟩ := later.motions_of_finished moves_rest finished
              rw [pending_of_holds holds, quiet]
              exact ⟨0, [.lent, .out], rfl, .returned stays⟩
          | lost =>
              obtain ⟨holds, finished⟩ := tells
              obtain ⟨quiet, stays⟩ := later.motions_of_finished moves_rest finished
              rw [pending_of_holds holds, quiet]
              exact ⟨0, [.lent, .lost], rfl, .lost stays⟩

end Runs

/-! ## All buffers together -/

/-- The buffers that there are, wherever they are. -/
def total (t : Traffic) : Nat :=
  t.connector.pool.idle.length + t.held.length + t.calls.countP Call.waits

/-- How many buffers callers and receives may have at once. -/
def demand (t : Traffic) : Nat :=
  t.held.length + t.calls.countP Call.receives

/-- Whether a step makes a buffer: one is lent and none is idle. -/
def makes (t : Traffic) (op : Op) (outcome : Option Outcome) : Bool :=
  match op, outcome with
  | .receive, none | .resume _, none => t.connector.pool.idle.isEmpty
  | _, _ => false

/-- Whether a step throws a buffer away. -/
def wastes (t : Traffic) : Op → Bool
  | .free _ => true
  | .cancel call => (t.loan? call).isSome
  | _ => false

/-- Whether a turn makes a buffer. -/
def Turn.makes (turn : Turn) : Bool :=
  turn.before.makes turn.op turn.effect.outcome

/-- Whether a turn throws a buffer away. -/
def Turn.wastes (turn : Turn) : Bool :=
  turn.before.wastes turn.op

theorem makes_take (t : Traffic) (call : Nat) (arrival : Arrival) (outcome : Option Outcome) :
    t.makes (.take call arrival) outcome = false := rfl

theorem makes_recycle (t : Traffic) (index : Nat) (outcome : Option Outcome) :
    t.makes (.recycle index) outcome = false := rfl

theorem makes_of_still {t : Traffic} {op : Op} {outcome : Option Outcome}
    (still : ∀ call, t.motion? op outcome call = none) : t.makes op outcome = false := by
  unfold makes
  split
  · have lent := still t.calls.length
    simp [motion?] at lent
  · rename_i call
    have lent := still call
    simp [motion?] at lent
  · rfl

theorem countP_waits_le (calls : List Call) :
    calls.countP Call.waits ≤ calls.countP Call.receives :=
  List.countP_mono_left fun call _ holds => by
    cases call with
    | waiting loan => rfl
    | looking | offered bytes | finished => cases holds

section Moves

variable {t u : Traffic} {op : Op} {outcome : Option Outcome}

/-- An open connector keeps its pool open, and as large as it is. -/
theorem Moves.pool_same (moves : Moves t op outcome u) :
    u.connector.pool.closed = t.connector.pool.closed ∧
      u.connector.pool.capacity = t.connector.pool.capacity := by
  cases moves with
  | begin pool _ _ | resume _ pool _ _ =>
      rw [pool]
      exact ⟨Pool.acquire_closed _, Pool.acquire_capacity _⟩
  | skip _ _ pool _ _ | recycle _ pool _ _ =>
      rw [pool]
      exact ⟨Pool.recycle_closed .., Pool.recycle_capacity ..⟩
  | deliver _ _ pool _ _ | abandon _ pool _ _ | free _ pool _ _ | rest _ pool _ _ _ _ _ =>
      rw [pool]
      exact ⟨rfl, rfl⟩

/-- A pool that lends a buffer has one less, unless it makes it. -/
theorem length_acquire (p : Pool) :
    p.acquire.2.idle.length + 1 = p.idle.length + if p.idle.isEmpty then 1 else 0 := by
  rw [Pool.acquire_idle]
  cases p.idle <;> rfl

/-- A pool that has room takes back what it has lent. -/
theorem length_recycle {p : Pool} {loan : Loan} (lent : p.Lent loan) (opened : p.closed = false)
    (room : p.idle.length < p.capacity) : (p.recycle loan).idle.length = p.idle.length + 1 := by
  rw [Pool.recycle_lent lent, if_neg]
  · rfl
  · rintro (closed | full)
    · cases opened.symm.trans closed
    · omega

/-- No buffer is lost, and one more is there if one is made. -/
theorem Moves.total (moves : Moves t op outcome u) (sound : Sound t)
    (opened : t.connector.pool.closed = false) (spares : t.wastes op = false)
    (room : t.total ≤ t.connector.pool.capacity) :
    u.total = t.total + if t.makes op outcome then 1 else 0 := by
  unfold Traffic.total at room ⊢
  cases moves with
  | begin pool calls held =>
      have lent := length_acquire t.connector.pool
      have waits : u.calls.countP Call.waits = t.calls.countP Call.waits + 1 := by
        rw [calls, List.countP_append]
        rfl
      rw [makes, pool, held, waits]
      omega
  | resume found pool calls held =>
      have lent := length_acquire t.connector.pool
      have waits : u.calls.countP Call.waits = t.calls.countP Call.waits + 1 := by
        rw [calls]
        exact countP_set_of_getElem? Call.waits found _
      rw [makes, pool, held, waits]
      omega
  | skip found carries pool calls held =>
      have waits : u.calls.countP Call.waits + 1 = t.calls.countP Call.waits := by
        rw [calls]
        exact countP_set_of_getElem? Call.waits found _
      have back := length_recycle (carries.lent (sound.lent_of_waiting found)) opened (by omega)
      rw [makes_take, pool, held, back]
      simp only [Bool.false_eq_true, if_false]
      omega
  | deliver found carries pool calls held =>
      have waits : u.calls.countP Call.waits + 1 = t.calls.countP Call.waits := by
        rw [calls]
        exact countP_set_of_getElem? Call.waits found _
      rw [makes_take, pool, held, List.length_append, List.length_singleton]
      simp only [Bool.false_eq_true, if_false]
      omega
  | abandon found pool calls held =>
      rw [wastes, loan?_of_waiting found] at spares
      cases spares
  | @recycle index packet _ found pool calls held =>
      obtain ⟨inside, -⟩ := List.getElem?_eq_some_iff.1 found
      have lent := sound.held packet (List.mem_of_getElem? found)
      have back := length_recycle lent opened (by omega)
      rw [makes_recycle, pool, calls, held, back, List.length_eraseIdx_of_lt inside]
      simp only [Bool.false_eq_true, if_false]
      omega
  | free found pool calls held => cases spares
  | rest still pool waits receives loans finished held =>
      rw [makes_of_still still, pool, waits, held]
      rfl

/-- A buffer is made only if all others are in use. -/
theorem Moves.total_of_makes (moves : Moves t op outcome u) (made : t.makes op outcome = true) :
    u.total ≤ u.demand := by
  have drained : ∀ {p : Pool}, p.idle.isEmpty = true → p.acquire.2.idle = [] := by
    intro p empty
    rw [Pool.acquire_idle, List.isEmpty_iff.1 empty]
    rfl
  have used := countP_waits_le u.calls
  unfold Traffic.total demand
  cases moves with
  | begin pool _ _ | resume _ pool _ _ =>
      rw [pool, drained made, List.length_nil]
      omega
  | skip | deliver | abandon | recycle | free => cases made
  | rest still =>
      rw [makes_of_still still] at made
      cases made

end Moves

section Runs

variable {t u : Traffic} {turns : List Turn} {limit : Nat}

/-- **As long as callers and receives together never have more than `limit` buffers at once
and nothing is thrown away, a pool with room for that many loses no buffer, and makes one
only if all others are in use.** -/
theorem Run.economical (ran : Run t turns u)
    (moves : ∀ turn ∈ turns, Moves turn.before turn.op turn.effect.outcome turn.after)
    (sound : ∀ turn ∈ turns, Sound turn.before) (spares : ∀ turn ∈ turns, turn.wastes = false)
    (demands : ∀ turn ∈ turns, turn.after.demand ≤ limit)
    (opened : t.connector.pool.closed = false) (room : limit ≤ t.connector.pool.capacity)
    (few : t.total ≤ limit) :
    u.total = t.total + turns.countP Turn.makes ∧
      ∀ turn ∈ turns, turn.before.total ≤ turn.after.total ∧ turn.after.total ≤ limit := by
  -- Along the turns, with the bound on the buffers so far: it leaves room for each that comes
  -- back, and each that is made leaves all in use, within the bound on the demand.
  induction ran with
  | stop t => exact ⟨rfl, fun _ member => absurd member List.not_mem_nil⟩
  | @turn head rest u later ih =>
      have here := moves head List.mem_cons_self
      obtain ⟨closed, capacity⟩ := here.pool_same
      have step : head.after.total = head.before.total + if head.makes then 1 else 0 :=
        here.total (sound head List.mem_cons_self) opened (spares head List.mem_cons_self)
          (few.trans room)
      have next : head.after.total ≤ limit := by
        cases made : head.makes with
        | true => exact (here.total_of_makes made).trans (demands head List.mem_cons_self)
        | false => simpa [step, made] using few
      obtain ⟨last, all⟩ := ih (fun turn member => moves turn (List.mem_cons_of_mem _ member))
        (fun turn member => sound turn (List.mem_cons_of_mem _ member))
        (fun turn member => spares turn (List.mem_cons_of_mem _ member))
        (fun turn member => demands turn (List.mem_cons_of_mem _ member))
        (closed.trans opened) (room.trans (Nat.le_of_eq capacity.symm)) next
      refine ⟨?_, fun turn member => ?_⟩
      · rw [last, step, List.countP_cons]
        omega
      · rcases List.mem_cons.1 member with rfl | inRest
        · exact ⟨by omega, next⟩
        · exact all turn inRest

end Runs

/-! ## A connector that starts with nothing -/

/-- Where the buffers of a connector are after some turns, in which it has stayed open. -/
structure Accounts (c : Connector) (turns : List Turn) (t : Traffic) : Prop where
  moves : ∀ turn ∈ turns, Moves turn.before turn.op turn.effect.outcome turn.after
  /-- Each receive gives back the buffer of every packet that it skips before it is lent the
  next, and what it does not give back is the one buffer that it returns or waits with. -/
  motions : ∀ call, ∃ skipped last,
    Traffic.motions call turns =
      (List.replicate skipped [Motion.lent, Motion.back]).flatten ++ last ∧ t.Course call last
  /-- If callers never hold more than `packets` packets and there are never more than
  `receives` receives under way, there never are more buffers than that, nor ever less than
  there have been. -/
  totals : ∀ packets receives, packets + receives ≤ c.pool.capacity →
    (∀ turn ∈ turns, turn.wastes = false ∧ turn.after.held.length ≤ packets ∧
      turn.after.calls.countP Call.receives ≤ receives) →
    t.total = turns.countP Turn.makes ∧ ∀ turn ∈ turns,
      turn.before.total ≤ turn.after.total ∧ turn.after.total ≤ packets + receives
  /-- One buffer is enough if each packet is given back before the next receive. -/
  single : 1 ≤ c.pool.capacity →
    (∀ turn ∈ turns, turn.wastes = false ∧ turn.after.demand ≤ 1) →
    t.total = turns.countP Turn.makes ∧ ∀ turn ∈ turns,
      turn.before.total ≤ turn.after.total ∧ turn.after.total ≤ 1

/-- What is open in the end has served all along. -/
theorem Run.serves {t u : Traffic} {turns : List Turn} (ran : Run t turns u)
    (orderly : ∀ turn ∈ turns, turn.Orderly) (opened : u.connector.closed = false) :
    ∀ turn ∈ turns, turn.after.connector.closed = false := by
  intro turn member
  obtain ⟨earlier, later, rfl⟩ := List.append_of_mem member
  cases closed : turn.after.connector.closed with
  | false => rfl
  | true =>
      have last := ran.split.2.closed_stays (fun other inLater => orderly other (by simp [inLater]))
        closed
      rw [last.1] at opened
      cases opened

/-- On a connector that starts with an empty pool and stays open, no buffer is lost but by
those who throw it away. -/
theorem Run.accounts {c : Connector} {now : Tick} {turns : List Turn} {t : Traffic}
    (ran : Run (start c now) turns t) (opened : c.standing = ⟨false, false, false⟩)
    (empty : c.pool.idle = []) (serving : t.connector.closed = false)
    (honest : ∀ turn ∈ turns, turn.Honest) : Accounts c turns t := by
  have kept_empty := Pool.WellKept.of_empty empty
  obtain ⟨-, kept⟩ := ran.keeps kept_empty.uniform
  have orderly : ∀ turn ∈ turns, turn.Orderly := fun turn member =>
    turn.orderly (kept turn member).1.2 (honest turn member)
  have served := ran.serves orderly serving
  have moves : ∀ turn ∈ turns, Moves turn.before turn.op turn.effect.outcome turn.after :=
    fun turn member =>
      turn.moves (kept turn member).1.2 ⟨served turn member, honest turn member⟩
  have nothing : (start c now).total = 0 := by
    simp [Traffic.total, start, empty]
  have economical : ∀ limit ≤ c.pool.capacity,
      (∀ turn ∈ turns, turn.wastes = false ∧ turn.after.demand ≤ limit) →
      t.total = turns.countP Turn.makes ∧ ∀ turn ∈ turns,
        turn.before.total ≤ turn.after.total ∧ turn.after.total ≤ limit := by
    intro limit room frugal
    have counted := ran.economical moves (fun turn member => (kept turn member).1.2)
      (fun turn member => (frugal turn member).1) (fun turn member => (frugal turn member).2)
      (congrArg Connector.Standing.poolClosed opened) room (by omega)
    rwa [nothing, Nat.zero_add] at counted
  constructor
  · exact moves
  · intro call
    exact ran.motions moves call
  · intro packets receives room frugal
    apply economical _ room
    intro turn member
    obtain ⟨spares, held, running⟩ := frugal turn member
    exact ⟨spares, Nat.add_le_add held running⟩
  · exact economical 1

end Traffic

end MediaTransport
