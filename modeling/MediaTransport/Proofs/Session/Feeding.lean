/-
# MediaTransport.Proofs.Session.Feeding -- what a loop does with one arrival

Between two arrivals a loop waits: it has not ended, its connector is open, and the buffer of
its receive is one that the pool has lent (`Waits`).  Feeding it is one step of its connector
and what follows from that step.  There are three ways: the packet is skipped and the receive
goes on (`feed_of_skip`), it is delivered, handled and given back and the next receive begins
(`feed_of_deliver`), or the receive fails and the loop has ended (`feed_of_error`), for good
(`run_of_ended`).
-/
import MediaTransport.Proofs.Connector.Polls
import MediaTransport.Session.Loop

namespace MediaTransport.Session.Loop

set_option autoImplicit false

open Connector (Action)

variable {σ : Type}

/-- A loop that waits for the next arrival, with what its connector is apart from the buffer
of the receive under way, and that buffer. -/
structure Waits (l : Loop σ) (c : Connector) (loan : Loan) : Prop where
  running : l.outcome = none
  connector : l.channel.connector = { c with waiting := some loan }
  idle : c.waiting = none
  opened : c.standing = ⟨false, false, false⟩
  uniform : c.pool.Uniform
  lent : c.pool.Lent loan

section Waits

variable {l : Loop σ} {c d : Connector} {loan : Loan}

theorem Waits.not_closed (waits : l.Waits c loan) : ¬ c.closed = true := by
  have opened : c.closed = false := congrArg Connector.Standing.closed waits.opened
  rw [opened]
  exact Bool.false_ne_true

theorem Waits.capacity (waits : l.Waits c loan) : loan.window.capacity = c.pool.size :=
  waits.lent.capacity

/-- A loop that has entered a receive on an open connector waits. -/
theorem waits_of_acquire (running : l.outcome = none) (idle : d.waiting = none)
    (opened : d.standing = ⟨false, false, false⟩) (uniform : d.pool.Uniform)
    (connector : l.channel.connector =
      { d with pool := d.pool.acquire.2, waiting := some d.pool.acquire.1 }) :
    l.Waits { d with pool := d.pool.acquire.2 } d.pool.acquire.1 := by
  have lent := Pool.lent_acquire uniform
  constructor
  · exact running
  · exact connector
  · exact idle
  · rw [← opened]
    simp [Connector.standing]
  · exact Pool.uniform_acquire uniform
  · exact lent.congr (Pool.acquire_id d.pool) (Pool.acquire_size d.pool)

end Waits

/-- A poll of a channel is a poll of its connector, which the socket obeys. -/
theorem poll_of_polled {channel : Channel} {now : Tick} {inbox left : List Arrival}
    {result : Connector.Poll} {c : Connector} {actions : List Action}
    (polled : channel.connector.poll now inbox = ⟨result, c, actions, left⟩) :
    channel.poll now inbox = (result, ⟨c, Channel.obey actions channel.socket⟩, actions, left) := by
  unfold Channel.poll
  rw [polled]

section Advance

variable (handler : Handler σ) {l : Loop σ} {now : Tick} {inbox left : List Arrival}
  {channel : Channel} {actions : List Action}

theorem advance_of_pending (running : l.outcome = none)
    (polled : l.channel.poll now inbox = (.pending, channel, actions, left)) :
    l.advance handler now inbox = ({ l with channel }, actions.map .acted) := by
  unfold advance
  split
  · rename_i ended
    cases running.symm.trans ended
  · simp only [polled, List.append_nil]

theorem advance_of_ok (running : l.outcome = none) {packet : Received}
    (polled : l.channel.poll now inbox = (.ready (.ok packet), channel, actions, left)) :
    let handled := { l with channel }.handle handler packet
    l.advance handler now inbox = (handled.1, actions.map .acted ++ handled.2) := by
  unfold advance
  split
  · rename_i ended
    cases running.symm.trans ended
  · simp only [polled]

theorem advance_of_error (running : l.outcome = none) {e : Connector.Error}
    (polled : l.channel.poll now inbox = (.ready (.error e), channel, actions, left)) :
    let ended := { l with channel }.finish e
    l.advance handler now inbox = (ended.1, actions.map .acted ++ ended.2) := by
  unfold advance
  split
  · rename_i ended
    cases running.symm.trans ended
  · simp only [polled]

theorem advance_of_ended (ended : l.outcome.isSome = true) :
    l.advance handler now inbox = (l, []) := by
  obtain ⟨outcome, found⟩ := Option.isSome_iff_exists.1 ended
  unfold advance
  rw [found]

/-- A loop that fails has ended. -/
theorem finish_outcome (l : Loop σ) (e : Connector.Error) :
    (l.finish e).1.outcome.isSome = true := by
  cases e <;> rfl

end Advance

section Feed

variable (handler : Handler σ) {l : Loop σ} {c d : Connector} {loan : Loan} {now : Tick}
  {arrival : Arrival} {actions : List Action}

/-- What a poll of a loop that waits does to its channel. -/
theorem poll_of_waits (waits : l.Waits c loan) {inbox left : List Arrival}
    {result : Connector.Poll}
    (pumped : Connector.pump now inbox c loan = ⟨result, d, actions, left⟩) :
    l.channel.poll now inbox =
      (result, ⟨d, Channel.obey actions l.channel.socket⟩, actions, left) := by
  have same : ({ c with waiting := none } : Connector) = c := by
    rw [← waits.idle]
  apply poll_of_polled
  rw [waits.connector, ← pumped]
  show Connector.pump now inbox { c with waiting := none } loan = _
  rw [same]

/-- A loop that waits does nothing as long as nothing arrives. -/
theorem advance_nil (waits : l.Waits c loan) (now : Tick) :
    l.advance handler now [] = (l, []) := by
  have pumped : Connector.pump now [] c loan = _ := Traffic.pump_nil waits.not_closed
  have polled := poll_of_waits waits pumped
  rw [← waits.connector] at polled
  exact advance_of_pending handler waits.running polled

/-- A loop on an open connector that is polled for the first time begins a receive. -/
theorem advance_begins (running : l.outcome = none) {c : Connector}
    (connector : l.channel.connector = c) (idle : c.waiting = none)
    (opened : c.standing = ⟨false, false, false⟩) (uniform : c.pool.Uniform) (now : Tick) :
    ∃ l', l.advance handler now [] = (l', [.acted .ask]) ∧ l'.state = l.state ∧
      l'.Waits { c with receiving := true, pool := c.pool.acquire.2 } c.pool.acquire.1 := by
  have not_closed : c.closed = false := congrArg Connector.Standing.closed opened
  have entered := Connector.enter_open (c := { c with receiving := true }) not_closed
  have begun : l.channel.connector.poll now [] =
      ⟨.pending, { c with
          receiving := true, pool := c.pool.acquire.2, waiting := some c.pool.acquire.1 },
        [.ask], []⟩ := by
    rw [connector, Traffic.poll_begins [] idle entered, Traffic.pump_nil (by simp [not_closed])]
    rfl
  have polled := poll_of_polled begun
  refine ⟨_, advance_of_pending handler running polled, rfl, ?_⟩
  exact waits_of_acquire (d := { c with receiving := true }) running idle opened uniform rfl

/-- A connector stays open unless its receive fails. -/
theorem opened_of_take (waits : l.Waits c loan) {progress : Connector.Progress}
    (taken : c.take now loan arrival = (progress, d, actions))
    (noError : ∀ e, progress ≠ .done (.error e)) : d.standing = ⟨false, false, false⟩ := by
  have fate := Connector.taken_of_take now waits.capacity taken
  exact (fate.standing noError).trans waits.opened

/-- The poll in which a packet is skipped. -/
theorem pump_of_skip (waits : l.Waits c loan)
    (taken : c.take now loan arrival = (.continue, d, actions)) :
    Connector.pump now [arrival] c loan =
      ⟨.pending, { d with pool := d.pool.acquire.2, waiting := some d.pool.acquire.1 },
        actions ++ [.ask], []⟩ := by
  have opened := opened_of_take waits taken (by simp)
  have not_closed : d.closed = false := congrArg Connector.Standing.closed opened
  have pumped := Traffic.pump_next [] waits.not_closed taken (Connector.enter_open not_closed)
  rw [Traffic.pump_nil (by simp [not_closed])] at pumped
  simp only [List.append_nil] at pumped
  exact pumped

/-- A packet that is skipped is none for the handler; the receive goes on with the next
buffer. -/
theorem feed_of_skip (waits : l.Waits c loan)
    (taken : c.take now loan arrival = (.continue, d, actions)) :
    ∃ l', l.feed handler now arrival = (l', (actions ++ [Action.ask]).map .acted) ∧
      l'.state = l.state ∧ l'.Waits { d with pool := d.pool.acquire.2 } d.pool.acquire.1 := by
  have fate := Connector.taken_of_take now waits.capacity taken
  have opened := opened_of_take waits taken (by simp)
  have idle : d.waiting = none := (fate.waiting (by simp)).trans waits.idle
  have pumped := pump_of_skip waits taken
  let waiting : Connector :=
    { d with pool := d.pool.acquire.2, waiting := some d.pool.acquire.1 }
  let next : Loop σ :=
    { l with channel := ⟨waiting, Channel.obey (actions ++ [.ask]) l.channel.socket⟩ }
  have advanced : l.advance handler now [arrival] = (next, (actions ++ [Action.ask]).map .acted) :=
    advance_of_pending handler waits.running (poll_of_waits waits pumped)
  have waits_next : next.Waits { d with pool := d.pool.acquire.2 } d.pool.acquire.1 :=
    waits_of_acquire waits.running idle opened (fate.uniform waits.uniform) rfl
  refine ⟨next, ?_, rfl, waits_next⟩
  unfold feed
  rw [advanced]
  simp only [advance_nil handler waits_next, List.append_nil]

/-- A packet that is delivered is handled, its buffer is given back, and the next receive
begins. -/
theorem feed_of_deliver (waits : l.Waits c loan) {packet : Received}
    (taken : c.take now loan arrival = (.done (.ok packet), d, actions)) :
    let handled := handler l.state packet.loan.window.bytes packet.source
    let e := d.recycle packet.loan
    ∃ l', l.feed handler now arrival =
        (l', actions.map .acted ++ handled.2.map .noted ++ [.acted .ask]) ∧
      l'.state = handled.1 ∧
      l'.Waits { e with receiving := true, pool := e.pool.acquire.2 } e.pool.acquire.1 := by
  intro handled e
  have fate := Connector.taken_of_take now waits.capacity taken
  have opened : e.standing = ⟨false, false, false⟩ :=
    (d.recycle_standing packet.loan).trans (opened_of_take waits taken (by simp))
  have idle : e.waiting = none := (fate.waiting (by simp)).trans waits.idle
  have uniform : e.pool.Uniform := Pool.uniform_recycle (fate.uniform waits.uniform) packet.loan
  have pumped := Traffic.pump_done [] waits.not_closed taken
  have advanced := advance_of_ok handler waits.running (poll_of_waits waits pumped)
  obtain ⟨next, begun, state, waits_next⟩ := advance_begins handler
    (l := ({ l with channel := ⟨d, Channel.obey actions l.channel.socket⟩ }.handle
      handler packet).1) waits.running (c := e) rfl idle opened uniform now
  refine ⟨next, ?_, state, waits_next⟩
  unfold feed
  rw [advanced]
  simp only [begun]
  rfl

/-- A receive that fails ends the loop. -/
theorem feed_of_error (waits : l.Waits c loan) {e : Connector.Error}
    (taken : c.take now loan arrival = (.done (.error e), d, actions)) :
    (l.feed handler now arrival).1.outcome.isSome = true := by
  have pumped := Traffic.pump_done [] waits.not_closed taken
  have advanced := advance_of_error handler waits.running (poll_of_waits waits pumped)
  unfold feed
  rw [advanced]
  simp only [advance_of_ended handler (finish_outcome _ e)]
  exact finish_outcome _ e

end Feed

/-- A loop that has ended does nothing more. -/
theorem feed_of_ended (handler : Handler σ) {l : Loop σ} (ended : l.outcome.isSome = true)
    (now : Tick) (arrival : Arrival) : l.feed handler now arrival = (l, []) := by
  unfold feed
  simp only [advance_of_ended handler ended, List.append_nil]

theorem run_of_ended (handler : Handler σ) {l : Loop σ} (ended : l.outcome.isSome = true)
    (history : List (Tick × Arrival)) : l.run handler history = (l, []) := by
  induction history with
  | nil => rfl
  | cons first rest ih =>
      obtain ⟨now, arrival⟩ := first
      unfold run
      simp only [feed_of_ended handler ended, ih, List.append_nil]

end MediaTransport.Session.Loop
