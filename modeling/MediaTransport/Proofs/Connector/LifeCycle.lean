/-
# MediaTransport.Proofs.Connector.LifeCycle -- a connector is closed once

A turn `ends` the connector if it is a close or a receive that returns an error.  Such a
turn leaves the connector closed and released and takes the steps of the closing, unless
an earlier one has (`Ended`); every other turn leaves the end alone, except that it may
mark the connector as closed (`GoesOn`).  So what is left of a run is whether one of its
turns ends the connector (`run_life_cycle`).

All this rests on a socket that keeps to the room it was given (`Turn.Honest`): one that
reports more ends a receive with another error and closes nothing.
-/
import MediaTransport.Proofs.Connector.Traffic

namespace MediaTransport

set_option autoImplicit false

open Connector (example13 example13_fresh exampleAddress examplePacket)

namespace Connector

/-! ## Ending and going on -/

/-- What is done at the end of a connector, be it the first or a later one. -/
structure Ended (c d : Connector) (actions : List Action) : Prop where
  standing : d.standing = ⟨true, true, !c.released || c.pool.closed⟩
  steps : closings actions = if c.released then [] else c.closing

/-- What is done before the end, and after it by what is no end. -/
structure GoesOn (c d : Connector) (actions : List Action) : Prop where
  closed : c.closed = true → d.closed = true
  released : d.released = c.released
  poolClosed : d.pool.closed = c.pool.closed
  quiet : closings actions = []

theorem GoesOn.of_standing {c d : Connector} {actions : List Action}
    (standing : d.standing = c.standing) (quiet : closings actions = []) :
    GoesOn c d actions where
  closed closed := (congrArg Standing.closed standing).trans closed
  released := congrArg Standing.released standing
  poolClosed := congrArg Standing.poolClosed standing
  quiet := quiet

theorem closing_of_line {c d : Connector} (line : d.line = c.line) : d.closing = c.closing := by
  have protocol : d.protocol = c.protocol := congrArg Line.protocol line
  have interface : d.interface = c.interface := congrArg Line.interface line
  have transport : d.transport = c.transport := congrArg Line.transport line
  rw [closing, closing, protocol, interface, transport]

theorem ended_close (c : Connector) : Ended c c.close.1 c.close.2 :=
  ⟨c.close_standing, c.closings_close⟩

theorem ended_fail (c : Connector) (loan : Loan) : Ended c (c.fail loan).1 (c.fail loan).2 :=
  ⟨c.fail_standing loan, c.closings_fail loan⟩

section Receive

variable {c d : Connector} {now : Tick} {loan : Loan} {arrival : Arrival}
  {actions : List Action}

theorem ended_enter (entered : c.enter = (none, d, actions)) :
    c.closed = true ∧ Ended c d actions ∧ .ask ∉ actions := by
  cases closed : c.closed with
  | true =>
      rw [enter_closed closed] at entered
      cases entered
      exact ⟨rfl, c.ended_close, c.ask_not_mem_close⟩
  | false =>
      rw [enter_open closed] at entered
      cases entered

theorem goesOn_enter (entered : c.enter = (some loan, d, actions)) :
    c.closed = false ∧ GoesOn c d actions := by
  cases closed : c.closed with
  | true =>
      rw [enter_closed closed] at entered
      cases entered
  | false =>
      rw [enter_open closed] at entered
      cases entered
      exact ⟨rfl, .of_standing (by simp [standing]) rfl⟩

/-- A receive that is handed something by an honest socket and returns an error ends the
connector, and the error is the terminal one. -/
theorem Taken.terminal {e : Error} (taken : Taken c now loan arrival (.done (.error e)) d actions)
    (honest : Honest loan arrival) : e = .closed ∧ Ended c d actions := by
  cases taken with
  | @ended _ last given first _ line _ standing _ _ quiet =>
      have released : last.released = c.released := congrArg Standing.released standing
      have poolClosed : last.pool.closed = c.pool.closed := congrArg Standing.poolClosed standing
      refine ⟨rfl, ?_, ?_⟩
      · rw [last.fail_standing given, released, poolClosed]
      · rw [closings_append, quiet, List.nil_append, last.closings_fail given, released,
          closing_of_line line]
  | overrun _ dishonest => exact absurd honest dishonest

theorem Taken.goesOn {progress : Progress} (taken : Taken c now loan arrival progress d actions)
    (noError : ∀ e, progress ≠ .done (.error e)) : GoesOn c d actions := by
  apply GoesOn.of_standing (taken.standing noError)
  cases taken with
  | delivered =>
      unfold recorded
      split <;> rfl
  | rejected => simp [closings, Action.closes]
  | truncated => exact c.closings_dropOversized ..
  | ended | overrun => exact absurd rfl (noError _)

end Receive

theorem goesOn_conclude {c d : Connector} {now : Tick} {bytes : Octets}
    {answer : Except Error Delivery} {result : Except Error Unit} {actions : List Action}
    (concluded : c.conclude now bytes answer = (result, d, actions)) : GoesOn c d actions := by
  cases answer with
  | error e =>
      cases concluded
      exact .of_standing rfl rfl
  | ok delivery =>
      obtain ⟨-, -, standing, -, -, -, -, quiet⟩ := c.conclude_ok now bytes delivery
      rw [concluded] at standing quiet
      exact .of_standing standing quiet

end Connector

namespace Traffic

/-! ## One turn -/

namespace Turn

/-- Whether a turn ends the connector: a close, or a receive that returns an error. -/
def ends (turn : Turn) : Bool :=
  match turn.op, turn.effect.outcome with
  | .close, _ => true
  | _, some (.received (.error _)) => true
  | _, _ => false

/-- Whether the socket keeps to the room that it was given in a turn. -/
def Honest (turn : Turn) : Prop :=
  ∀ call arrival loan, turn.op = .take call arrival →
    turn.before.calls[call]? = some (.waiting loan) → Connector.Honest loan arrival

/-- A socket that claims no size of its own is honest. -/
theorem honest_of_unclaimed {turns : List Turn} {ops : List Op} (same : turns.map Turn.op = ops)
    (unclaimed : ∀ op ∈ ops, ∀ call bytes size source,
      op ≠ .take call (.packet bytes (some size) source)) :
    ∀ turn ∈ turns, turn.Honest := by
  intro turn member call arrival loan op found
  cases arrival with
  | failed fault => trivial
  | packet bytes claimed source =>
      cases claimed with
      | none => trivial
      | some size => exact absurd op (unclaimed _ (same ▸ List.mem_map_of_mem member) _ _ _ _)

/-- A turn that ends the connector does what belongs to the end, and one that does not
goes on. -/
def Orderly (turn : Turn) : Prop :=
  (turn.ends = true ∧
      Connector.Ended turn.before.connector turn.after.connector turn.effect.actions) ∨
    (turn.ends = false ∧
      Connector.GoesOn turn.before.connector turn.after.connector turn.effect.actions)

theorem orderly (turn : Turn) (sound : Sound turn.before) (honest : turn.Honest) :
    turn.Orderly := by
  obtain ⟨t, op, effect, u, step⟩ := turn
  cases step with
  | receive entered =>
      obtain ⟨closed, released, poolClosed, quiet⟩ := (Connector.goesOn_enter entered).2
      exact .inr ⟨rfl, closed, released, poolClosed, quiet⟩
  | receiveClosed entered =>
      obtain ⟨standing, steps⟩ := (Connector.ended_enter entered).2.1
      exact .inl ⟨rfl, standing, steps⟩
  | resume found entered => exact .inr ⟨rfl, (Connector.goesOn_enter entered).2⟩
  | resumeClosed found entered => exact .inl ⟨rfl, (Connector.ended_enter entered).2.1⟩
  | skip found taken =>
      have taken := Connector.taken_of_take t.now (sound.lent_of_waiting found).capacity taken
      exact .inr ⟨rfl, taken.goesOn (by simp)⟩
  | deliver found taken =>
      have taken := Connector.taken_of_take t.now (sound.lent_of_waiting found).capacity taken
      exact .inr ⟨rfl, taken.goesOn (by simp)⟩
  | refuse found taken =>
      have taken := Connector.taken_of_take t.now (sound.lent_of_waiting found).capacity taken
      exact .inl ⟨rfl, (taken.terminal (honest _ _ _ rfl found)).2⟩
  | @stop call loan found closed => exact .inl ⟨rfl, t.connector.ended_fail loan⟩
  | answer found concluded => exact .inr ⟨rfl, Connector.goesOn_conclude concluded⟩
  | close => exact .inl ⟨rfl, t.connector.ended_close⟩
  | @recycle index packet found =>
      exact .inr ⟨rfl, .of_standing (t.connector.recycle_standing packet.loan) rfl⟩
  | @recycleOther loan other =>
      exact .inr ⟨rfl, .of_standing (t.connector.recycle_standing loan) rfl⟩
  | markClosed => exact .inr ⟨rfl, fun _ => rfl, rfl, rfl, rfl⟩
  | send _ | sendClosed _ | cancelReceive _ | cancelSend _ | free _ | edit _ | advance =>
      exact .inr ⟨rfl, .of_standing rfl rfl⟩

/-- The only error of a receive is the terminal one, and it ends the connector. -/
theorem error_ends (turn : Turn) (sound : Sound turn.before) (honest : turn.Honest)
    {e : Connector.Error} (error : turn.effect.outcome = some (.received (.error e))) :
    e = .closed ∧ turn.ends = true := by
  obtain ⟨t, op, effect, u, step⟩ := turn
  cases step with
  | receiveClosed entered | resumeClosed found entered | stop found closed =>
      cases error
      exact ⟨rfl, rfl⟩
  | refuse found taken =>
      cases error
      have taken := Connector.taken_of_take t.now (sound.lent_of_waiting found).capacity taken
      exact ⟨(taken.terminal (honest _ _ _ rfl found)).1, rfl⟩
  | _ => cases error

/-- A receive that begins on a closed connector returns at once. -/
theorem receive_of_closed (turn : Turn) (begins : turn.op = .receive)
    (closed : turn.before.connector.closed = true) :
    turn.effect.outcome = some (.received (.error .closed)) ∧ .ask ∉ turn.effect.actions := by
  obtain ⟨t, op, effect, u, step⟩ := turn
  cases begins
  cases step with
  | receive entered =>
      have opened : t.connector.closed = false := (Connector.goesOn_enter entered).1
      exact absurd closed (by simp [opened])
  | receiveClosed entered => exact ⟨rfl, (Connector.ended_enter entered).2.2⟩

/-- A send that begins on a closed connector reaches nothing. -/
theorem send_of_closed (turn : Turn) {bytes : Octets} {target : Option Net.Address}
    (begins : turn.op = .send bytes target) (closed : turn.before.connector.closed = true) :
    turn.effect = ⟨[], some (.sent bytes (.error .closed))⟩ ∧
      turn.after.connector = turn.before.connector := by
  obtain ⟨t, op, effect, u, step⟩ := turn
  cases begins
  cases step with
  | send opened => exact absurd closed (by simp [opened])
  | sendClosed _ => exact ⟨rfl, rfl⟩

/-- A connector that is closed stays closed. -/
theorem Orderly.closed {turn : Turn} (orderly : turn.Orderly)
    (closed : turn.before.connector.closed = true) : turn.after.connector.closed = true := by
  rcases orderly with ⟨-, ended⟩ | ⟨-, goesOn⟩
  · exact congrArg Connector.Standing.closed ended.standing
  · exact goesOn.closed closed

theorem Orderly.of_ends {turn : Turn} (orderly : turn.Orderly) (ends : turn.ends = true) :
    turn.after.connector.closed = true ∧ turn.after.connector.released = true := by
  rcases orderly with ⟨-, ended⟩ | ⟨goes, -⟩
  · exact ⟨congrArg Connector.Standing.closed ended.standing,
      congrArg Connector.Standing.released ended.standing⟩
  · rw [ends] at goes
    cases goes

theorem Orderly.released {turn : Turn} (orderly : turn.Orderly) :
    turn.after.connector.released = (turn.before.connector.released || turn.ends) := by
  rcases orderly with ⟨ends, ended⟩ | ⟨ends, goesOn⟩
  · rw [ends, Bool.or_true]
    exact congrArg Connector.Standing.released ended.standing
  · rw [ends, Bool.or_false]
    exact goesOn.released

/-- The pool is closed when the socket is. -/
theorem Orderly.poolClosed {turn : Turn} (orderly : turn.Orderly)
    (agree : turn.before.connector.pool.closed = turn.before.connector.released) :
    turn.after.connector.pool.closed = turn.after.connector.released := by
  rw [orderly.released]
  rcases orderly with ⟨ends, ended⟩ | ⟨ends, goesOn⟩
  · have poolClosed := congrArg Connector.Standing.poolClosed ended.standing
    rw [ends, Bool.or_true]
    exact poolClosed.trans (by rw [agree, Bool.not_or_self])
  · rw [ends, Bool.or_false, goesOn.poolClosed, agree]

theorem Orderly.closings {turn : Turn} (orderly : turn.Orderly) :
    Connector.closings turn.effect.actions =
      if turn.ends && !turn.before.connector.released then turn.before.connector.closing
      else [] := by
  rcases orderly with ⟨ends, ended⟩ | ⟨ends, goesOn⟩
  · rw [ended.steps, ends, Bool.true_and]
    cases turn.before.connector.released <;> rfl
  · rw [goesOn.quiet, ends, Bool.false_and]
    rfl

end Turn

/-! ## A whole run -/

section Ends

variable {t u : Traffic} {turns : List Turn}

theorem Run.closed_stays (ran : Run t turns u) (orderly : ∀ turn ∈ turns, turn.Orderly)
    (closed : t.connector.closed = true) :
    u.connector.closed = true ∧ ∀ turn ∈ turns, turn.after.connector.closed = true := by
  obtain ⟨last, all⟩ := ran.invariant (P := fun t => t.connector.closed = true)
    (fun turn member => (orderly turn member).closed) closed
  exact ⟨last, fun turn member => (all turn member).2⟩

/-- The connector is released once one of the turns has ended it, and its pool is closed
then. -/
theorem Run.released (ran : Run t turns u) (orderly : ∀ turn ∈ turns, turn.Orderly)
    (agree : t.connector.pool.closed = t.connector.released) :
    u.connector.released = (t.connector.released || turns.any Turn.ends) ∧
      u.connector.pool.closed = u.connector.released := by
  induction ran with
  | stop t => exact ⟨(Bool.or_false _).symm, agree⟩
  | @turn head rest u later ih =>
      have first := orderly head List.mem_cons_self
      obtain ⟨released, poolClosed⟩ :=
        ih (fun turn member => orderly turn (List.mem_cons_of_mem _ member))
          (first.poolClosed agree)
      exact ⟨by rw [released, first.released, List.any_cons, Bool.or_assoc], poolClosed⟩

/-- The steps of the closing are taken once, if at all. -/
theorem Run.closings (ran : Run t turns u) (orderly : ∀ turn ∈ turns, turn.Orderly)
    {c : Connector} (line : ∀ turn ∈ turns, turn.before.connector.line = c.line) :
    Connector.closings (actions turns) =
      if turns.any Turn.ends && !t.connector.released then c.closing else [] := by
  induction ran with
  | stop t => rfl
  | @turn head rest u later ih =>
      have first := orderly head List.mem_cons_self
      have following := ih (fun turn member => orderly turn (List.mem_cons_of_mem _ member))
        fun turn member => line turn (List.mem_cons_of_mem _ member)
      rw [actions_cons, Connector.closings_append, first.closings, following, first.released,
        Connector.closing_of_line (line head List.mem_cons_self), List.any_cons]
      cases head.ends <;> cases head.before.connector.released <;> simp

end Ends

theorem answers_of_closed {t : Traffic} (closed : t.connector.closed = true) :
    (∃ effect u, Step t .receive effect u) ∧
      ∀ bytes target, ∃ effect u, Step t (.send bytes target) effect u := by
  have marked : ({ t.connector with receiving := true } : Connector).closed = true := closed
  exact ⟨⟨_, _, .receiveClosed (Connector.enter_closed marked)⟩,
    fun _ _ => ⟨_, _, .sendClosed closed⟩⟩

/-- How a connector comes to its end. -/
structure LifeCycle (c : Connector) (turns : List Turn) (t : Traffic) : Prop where
  /-- What is closed stays closed. -/
  closed : ∀ earlier turn later, turns = earlier ++ turn :: later →
    turn.before.connector.closed = true →
      ∀ other ∈ turn :: later, other.after.connector.closed = true
  /-- A closed connector answers both kinds of calls. -/
  answers : t.connector.closed = true →
    (∃ effect u, Step t .receive effect u) ∧
      ∀ bytes target, ∃ effect u, Step t (.send bytes target) effect u
  /-- A receive that begins on a closed connector does not ask the socket. -/
  receive : ∀ turn ∈ turns, turn.op = .receive → turn.before.connector.closed = true →
    turn.effect.outcome = some (.received (.error .closed)) ∧ .ask ∉ turn.effect.actions
  /-- A send that begins on a closed connector reaches neither the socket nor the counters
  nor the packet logger. -/
  send : ∀ turn ∈ turns, ∀ bytes target, turn.op = .send bytes target →
    turn.before.connector.closed = true →
      turn.effect = ⟨[], some (.sent bytes (.error .closed))⟩ ∧
        turn.after.connector = turn.before.connector
  /-- Whatever it is that ends a receive, its error is the terminal one, and the connector
  is closed and released. -/
  error : ∀ turn ∈ turns, ∀ e, turn.effect.outcome = some (.received (.error e)) →
    e = .closed ∧ turn.after.connector.closed = true ∧ turn.after.connector.released = true
  /-- The first turn that ends the connector closes the socket and says so. -/
  closing : ∀ earlier turn later, turns = earlier ++ turn :: later →
    Connector.closings turn.effect.actions =
      if turn.ends && !earlier.any Turn.ends then c.closing else []
  once : Connector.closings (actions turns) = if turns.any Turn.ends then c.closing else []
  released : t.connector.released = turns.any Turn.ends
  /-- The pool is closed from then on, and all packets that are held are invalid. -/
  pool : t.connector.pool.closed = turns.any Turn.ends
  held : ∀ packet ∈ t.held, t.connector.invalidates packet.loan = turns.any Turn.ends

/-- **On an honest socket a connector is closed and released exactly when a close or an
error of a receive ends it, whatever else happens and in which order.** -/
theorem run_life_cycle {c : Connector} {now : Tick} {turns : List Turn} {t : Traffic}
    (fresh : c.Fresh) (ran : Run (start c now) turns t) (honest : ∀ turn ∈ turns, turn.Honest) :
    LifeCycle c turns t := by
  obtain ⟨⟨-, sound⟩, kept⟩ := ran.keeps fresh.uniform
  have orderly : ∀ turn ∈ turns, turn.Orderly := fun turn member =>
    turn.orderly (kept turn member).1.2 (honest turn member)
  have unreleased : c.released = false := congrArg Connector.Standing.released fresh.standing
  have poolOpen : c.pool.closed = false := congrArg Connector.Standing.poolClosed fresh.standing
  have agree : (start c now).connector.pool.closed = (start c now).connector.released :=
    poolOpen.trans unreleased.symm
  obtain ⟨released, poolClosed⟩ := ran.released orderly agree
  rw [start, unreleased, Bool.false_or] at released
  have pool := poolClosed.trans released
  refine ⟨?_, answers_of_closed, fun turn _ => turn.receive_of_closed,
    fun turn _ _ _ => turn.send_of_closed, ?_, ?_, ?_, released, pool, ?_⟩
  · rintro earlier turn later rfl closed other member
    have orderly_here := orderly turn (by simp)
    rcases List.mem_cons.1 member with rfl | inLater
    · exact orderly_here.closed closed
    · have after := (ran.split).2
      exact (after.closed_stays (fun other member => orderly other (by simp [member]))
        (orderly_here.closed closed)).2 other inLater
  · intro turn member e error
    obtain ⟨terminal, ends⟩ :=
      turn.error_ends (kept turn member).1.2 (honest turn member) error
    exact ⟨terminal, (orderly turn member).of_ends ends⟩
  · rintro earlier turn later rfl
    have orderly_earlier : ∀ other ∈ earlier, other.Orderly := fun other member =>
      orderly other (by simp [member])
    have before := (ran.split.1.released orderly_earlier agree).1
    rw [start, unreleased, Bool.false_or] at before
    rw [(orderly turn (by simp)).closings, before,
      Connector.closing_of_line (kept turn (by simp)).1.1]
  · have steps := ran.closings orderly fun turn member => (kept turn member).1.1
    rw [start, unreleased, Bool.not_false, Bool.and_true] at steps
    exact steps
  · intro packet member
    exact (sound.held packet member).invalidates.trans pool

/-- A connector that is marked as closed while a receive waits and a packet is held; the
receive ends it, and a close and two more calls come too late. -/
theorem life_cycle_marked_then_closed :
    example13.Fresh ∧ ∃ turns t, Run (start example13 0) turns t ∧
      turns.map Turn.op =
        [.receive, .take 0 (.packet examplePacket none exampleAddress), .receive, .markClosed,
          .stop 1, .close, .receive, .send [7] none] ∧
      (∀ turn ∈ turns, turn.Honest) ∧ LifeCycle example13 turns t := by
  have ran :=
    Run.turn ⟨start example13 0, .receive, _, _, .receive rfl⟩ <|
    .turn ⟨_, .take 0 (.packet examplePacket none exampleAddress), _, _, .deliver rfl rfl⟩ <|
    .turn ⟨_, .receive, _, _, .receive rfl⟩ <|
    .turn ⟨_, .markClosed, _, _, .markClosed⟩ <|
    .turn ⟨_, .stop 1, _, _, .stop rfl rfl⟩ <|
    .turn ⟨_, .close, _, _, .close⟩ <|
    .turn ⟨_, .receive, _, _, .receiveClosed rfl⟩ <|
    .turn ⟨_, .send [7] none, _, _, .sendClosed rfl⟩ <|
    .stop _
  obtain ⟨turns, t, ran, ops⟩ : ∃ turns t, Run (start example13 0) turns t ∧
      turns.map Turn.op = _ := ⟨_, _, ran, rfl⟩
  have honest := Turn.honest_of_unclaimed ops (by simp)
  exact ⟨example13_fresh, turns, t, ran, ops, honest, run_life_cycle example13_fresh ran honest⟩

end Traffic

end MediaTransport
