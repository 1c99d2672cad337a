/-
# MediaTransport.Proofs.Connector.Traffic -- a connector used by many at once

Any number of receives and sends may be under way on one connector.  Between two of
their waits everything else can happen: other calls begin, go on and end, the socket
hands something over or answers, packets are changed and given back, the connector is
closed or marked as closed.  `Traffic` is a connector with the calls under way on it
and the packets that callers hold; `Step` says what can happen next.

A call is cut where it waits, and a receive once more where it goes on to the next
packet, since a close may come in there too.  Nothing else is assumed about the order:
which of several waiting receives gets a packet, whether a receive that waits on a
closed connector sees the close or one more packet first, and how long a socket takes
to answer are all open.

A `Turn` is a step with what was before and after it, and a `Run` is turns one after the
other.  Two things hold all along a run that begins with a fresh connector (`Fresh`): the
connector stays on its line, and every buffer that is lent has the size of the pool, be
it in a receive or in a caller's hands (`Sound`).
-/
import MediaTransport.Proofs.Connector.Fates
import MediaTransport.Proofs.Window.Edits

namespace MediaTransport

set_option autoImplicit false

open Net (Address)

/-! ## Calls and steps -/

/-- A call on a connector. -/
inductive Call where
  /-- A receive that has dropped a packet and goes on to the next. -/
  | looking
  /-- A receive that has asked the socket, with the buffer for the answer. -/
  | waiting (loan : Loan)
  /-- A send whose packet the socket has. -/
  | offered (bytes : Octets)
  /-- A call that has returned or was given up. -/
  | finished

/-- A connector with the calls on it. -/
structure Traffic where
  connector : Connector
  now : Tick
  /-- The calls in the order in which they began; a call is known by its place. -/
  calls : List Call := []
  /-- The packets that were received and not given back or freed. -/
  held : List Received := []

namespace Traffic

/-- What may happen next. -/
inductive Op where
  /-- A receive begins. -/
  | receive
  /-- A receive goes on after a packet that was dropped. -/
  | resume (call : Nat)
  /-- The socket hands something over to a receive. -/
  | take (call : Nat) (arrival : Arrival)
  /-- A receive that waits finds the connector closed. -/
  | stop (call : Nat)
  /-- A send begins. -/
  | send (bytes : Octets) (target : Option Address)
  /-- The socket answers to a send. -/
  | answer (call : Nat) (answer : Except Connector.Error Delivery)
  /-- A call that waits is given up. -/
  | cancel (call : Nat)
  /-- A packet is given back. -/
  | recycle (index : Nat)
  /-- A buffer that another pool has lent is offered. -/
  | recycleOther (loan : Loan)
  | free (index : Nat)
  | edit (index : Nat) (change : Window.Edit)
  | close
  /-- The connector is marked as closed from outside. -/
  | markClosed
  | advance (milliseconds : Tick)

/-- A call that returns, with what it returns. -/
inductive Outcome where
  | received (result : Except Connector.Error Received)
  | sent (bytes : Octets) (result : Except Connector.Error Unit)

/-- What a step does to the outside: the actions of the connector, and the return of a
call. -/
structure Effect where
  actions : List Connector.Action := []
  outcome : Option Outcome := none

inductive Step (t : Traffic) : Op → Effect → Traffic → Prop where
  | receive {loan : Loan} {c : Connector} {actions : List Connector.Action}
      (entered : Connector.enter { t.connector with receiving := true } =
        (some loan, c, actions)) :
      Step t .receive ⟨actions, none⟩
        { t with connector := c, calls := t.calls ++ [.waiting loan] }
  | receiveClosed {c : Connector} {actions : List Connector.Action}
      (entered : Connector.enter { t.connector with receiving := true } = (none, c, actions)) :
      Step t .receive ⟨actions, some (.received (.error .closed))⟩
        { t with connector := c, calls := t.calls ++ [.finished] }
  | resume {call : Nat} {loan : Loan} {c : Connector} {actions : List Connector.Action}
      (found : t.calls[call]? = some .looking)
      (entered : t.connector.enter = (some loan, c, actions)) :
      Step t (.resume call) ⟨actions, none⟩
        { t with connector := c, calls := t.calls.set call (.waiting loan) }
  | resumeClosed {call : Nat} {c : Connector} {actions : List Connector.Action}
      (found : t.calls[call]? = some .looking)
      (entered : t.connector.enter = (none, c, actions)) :
      Step t (.resume call) ⟨actions, some (.received (.error .closed))⟩
        { t with connector := c, calls := t.calls.set call .finished }
  | skip {call : Nat} {loan : Loan} {arrival : Arrival} {c : Connector}
      {actions : List Connector.Action} (found : t.calls[call]? = some (.waiting loan))
      (taken : t.connector.take t.now loan arrival = (.continue, c, actions)) :
      Step t (.take call arrival) ⟨actions, none⟩
        { t with connector := c, calls := t.calls.set call .looking }
  | deliver {call : Nat} {loan : Loan} {arrival : Arrival} {packet : Received} {c : Connector}
      {actions : List Connector.Action} (found : t.calls[call]? = some (.waiting loan))
      (taken : t.connector.take t.now loan arrival = (.done (.ok packet), c, actions)) :
      Step t (.take call arrival) ⟨actions, some (.received (.ok packet))⟩
        { t with
          connector := c
          calls := t.calls.set call .finished
          held := t.held ++ [packet] }
  | refuse {call : Nat} {loan : Loan} {arrival : Arrival} {e : Connector.Error}
      {c : Connector} {actions : List Connector.Action}
      (found : t.calls[call]? = some (.waiting loan))
      (taken : t.connector.take t.now loan arrival = (.done (.error e), c, actions)) :
      Step t (.take call arrival) ⟨actions, some (.received (.error e))⟩
        { t with connector := c, calls := t.calls.set call .finished }
  | stop {call : Nat} {loan : Loan} (found : t.calls[call]? = some (.waiting loan))
      (closed : t.connector.closed = true) :
      Step t (.stop call) ⟨(t.connector.fail loan).2, some (.received (.error .closed))⟩
        { t with connector := (t.connector.fail loan).1, calls := t.calls.set call .finished }
  | send {bytes : Octets} {target : Option Address} (opened : t.connector.closed = false) :
      Step t (.send bytes target) ⟨[.offer bytes target], none⟩
        { t with calls := t.calls ++ [.offered bytes] }
  | sendClosed {bytes : Octets} {target : Option Address} (closed : t.connector.closed = true) :
      Step t (.send bytes target) ⟨[], some (.sent bytes (.error .closed))⟩
        { t with calls := t.calls ++ [.finished] }
  | answer {call : Nat} {bytes : Octets} {answer : Except Connector.Error Delivery}
      {result : Except Connector.Error Unit} {c : Connector} {actions : List Connector.Action}
      (found : t.calls[call]? = some (.offered bytes))
      (concluded : t.connector.conclude t.now bytes answer = (result, c, actions)) :
      Step t (.answer call answer) ⟨actions, some (.sent bytes result)⟩
        { t with connector := c, calls := t.calls.set call .finished }
  | cancelReceive {call : Nat} {loan : Loan} (found : t.calls[call]? = some (.waiting loan)) :
      Step t (.cancel call) {} { t with calls := t.calls.set call .finished }
  | cancelSend {call : Nat} {bytes : Octets} (found : t.calls[call]? = some (.offered bytes)) :
      Step t (.cancel call) {} { t with calls := t.calls.set call .finished }
  | recycle {index : Nat} {packet : Received} (found : t.held[index]? = some packet) :
      Step t (.recycle index) {}
        { t with
          connector := t.connector.recycle packet.loan
          held := t.held.eraseIdx index }
  | recycleOther {loan : Loan} (other : loan.owner ≠ t.connector.pool.id) :
      Step t (.recycleOther loan) {} { t with connector := t.connector.recycle loan }
  | free {index : Nat} {packet : Received} (found : t.held[index]? = some packet) :
      Step t (.free index) {} { t with held := t.held.eraseIdx index }
  | edit {index : Nat} {packet : Received} {change : Window.Edit}
      (found : t.held[index]? = some packet) :
      Step t (.edit index change) {}
        { t with
          held := t.held.set index
            { packet with loan.window := packet.loan.window.after change } }
  | close :
      Step t .close ⟨t.connector.close.2, none⟩ { t with connector := t.connector.close.1 }
  | markClosed : Step t .markClosed {} { t with connector := t.connector.markClosed }
  | advance {milliseconds : Tick} :
      Step t (.advance milliseconds) {} { t with now := t.now + milliseconds }

theorem getElem?_set_of_getElem? {calls : List Call} {call : Nat} {old : Call}
    (found : calls[call]? = some old) (new : Call) : (calls.set call new)[call]? = some new :=
  List.getElem?_set_self (List.getElem?_eq_some_iff.1 found).1

/-- What is left open is which step comes next; what it does is determined. -/
theorem Step.deterministic {t u v : Traffic} {op : Op} {effect other : Effect}
    (first : Step t op effect u) (second : Step t op other v) : effect = other ∧ u = v := by
  -- Rules for one operation differ in what they find, so the mixed cases contradict.
  cases first <;> cases second <;> simp_all

/-! ## Turns and runs -/

/-- A step with what was before and after it. -/
structure Turn where
  before : Traffic
  op : Op
  effect : Effect
  after : Traffic
  step : Step before op effect after

/-- Turns one after the other. -/
inductive Run : Traffic → List Turn → Traffic → Prop where
  | stop (t : Traffic) : Run t [] t
  | turn (first : Turn) {rest : List Turn} {u : Traffic} (later : Run first.after rest u) :
      Run first.before (first :: rest) u

/-- What the socket hands over in a turn. -/
def Turn.arrivals (turn : Turn) : List Arrival :=
  match turn.op with
  | .take _ arrival => [arrival]
  | _ => []

section Views

variable (turns : List Turn)

def arrivals : List Arrival :=
  turns.flatMap Turn.arrivals

/-- What is done to the outside, in order. -/
def actions : List Connector.Action :=
  turns.flatMap fun turn => turn.effect.actions

/-- What the calls return, in the order in which they do. -/
def outcomes : List Outcome :=
  turns.filterMap fun turn => turn.effect.outcome

end Views

theorem actions_cons (turn : Turn) (rest : List Turn) :
    actions (turn :: rest) = turn.effect.actions ++ actions rest := rfl

theorem arrivals_cons (turn : Turn) (rest : List Turn) :
    arrivals (turn :: rest) = turn.arrivals ++ arrivals rest := rfl

/-- A connector on which no call is under way. -/
def start (c : Connector) (now : Tick) : Traffic where
  connector := c
  now := now

namespace Run

/-- What every turn keeps is kept by a run, and holds before and after each of its
turns. -/
theorem invariant {P : Traffic → Prop} {t u : Traffic} {turns : List Turn}
    (ran : Run t turns u) (kept : ∀ turn ∈ turns, P turn.before → P turn.after) (first : P t) :
    P u ∧ ∀ turn ∈ turns, P turn.before ∧ P turn.after := by
  induction ran with
  | stop t => exact ⟨first, by simp⟩
  | turn head later ih =>
      have next := kept head List.mem_cons_self first
      obtain ⟨last, rest⟩ := ih (fun turn member => kept turn (List.mem_cons_of_mem _ member)) next
      refine ⟨last, fun turn member => ?_⟩
      rcases List.mem_cons.1 member with rfl | inRest
      · exact ⟨first, next⟩
      · exact rest turn inRest

/-- A run can be cut at any of its turns. -/
theorem split {t u : Traffic} {earlier later : List Turn} {turn : Turn}
    (ran : Run t (earlier ++ turn :: later) u) :
    Run t earlier turn.before ∧ Run turn.after later u := by
  induction earlier generalizing t with
  | nil =>
      cases ran with
      | turn _ rest => exact ⟨.stop _, rest⟩
  | cons head earlier ih =>
      cases ran with
      | turn _ rest =>
          obtain ⟨first, last⟩ := ih rest
          exact ⟨.turn head first, last⟩

end Run

end Traffic

/-! ## Fresh connectors and sound traffic -/

/-- A connector that nothing has happened to yet. -/
structure Connector.Fresh (c : Connector) : Prop where
  counts : c.counts = {}
  filter : ∀ f, c.filter = some f → f.mismatched = 0 ∧ f.rejected = 0
  standing : c.standing = ⟨false, false, false⟩
  uniform : c.pool.Uniform

namespace Connector

/-- The address of the example. -/
def exampleAddress : Address :=
  .v4 ⟨127, 0, 0, 1⟩ 4000

/-- A connector for media in datagrams of up to thirteen octets, with a filter and a
packet logger. -/
def example13 : Connector where
  protocol := .rtp
  transport := .udp
  interface := exampleAddress
  filter := some (Filter.start .rtp 10 0)
  limiter := Limiter.start 10 0
  pool := { id := 0, size := 14, capacity := 2 }
  records := true

theorem example13_fresh : example13.Fresh where
  counts := rfl
  filter := by
    intro f filter
    cases filter
    exact ⟨rfl, rfl⟩
  standing := rfl
  uniform := by simp [Pool.Uniform, example13]

/-- A media packet without a payload. -/
def examplePacket : Octets :=
  [0x80, 0, 0, 1, 0, 0, 0, 1, 0, 0, 0, 1]

end Connector

namespace Traffic

/-- Every buffer, idle or lent, has the size of the pool. -/
structure Sound (t : Traffic) : Prop where
  uniform : t.connector.pool.Uniform
  waiting : ∀ loan, .waiting loan ∈ t.calls → t.connector.pool.Lent loan
  held : ∀ packet ∈ t.held, t.connector.pool.Lent packet.loan

namespace Sound

variable {t : Traffic}

theorem start {c : Connector} (uniform : c.pool.Uniform) (now : Tick) :
    Sound (Traffic.start c now) :=
  ⟨uniform, by simp [Traffic.start], by simp [Traffic.start]⟩

/-- Another connector on the same line is as good. -/
theorem connector (sound : Sound t) {c : Connector} (line : c.line = t.connector.line)
    (uniform : c.pool.Uniform) : Sound { t with connector := c } := by
  have id : c.pool.id = t.connector.pool.id := congrArg Connector.Line.poolId line
  have size : c.pool.size = t.connector.pool.size := congrArg Connector.Line.poolSize line
  exact ⟨uniform, fun loan member => (sound.waiting loan member).congr id size,
    fun packet member => (sound.held packet member).congr id size⟩

theorem addCall (sound : Sound t) {call : Call}
    (lent : ∀ loan, call = .waiting loan → t.connector.pool.Lent loan) :
    Sound { t with calls := t.calls ++ [call] } := by
  refine ⟨sound.uniform, fun loan member => ?_, sound.held⟩
  rcases List.mem_append.1 member with old | new
  · exact sound.waiting loan old
  · exact lent loan (List.mem_singleton.1 new).symm

theorem setCall (sound : Sound t) {place : Nat} {call : Call}
    (lent : ∀ loan, call = .waiting loan → t.connector.pool.Lent loan) :
    Sound { t with calls := t.calls.set place call } := by
  refine ⟨sound.uniform, fun loan member => ?_, sound.held⟩
  rcases List.mem_or_eq_of_mem_set member with old | new
  · exact sound.waiting loan old
  · exact lent loan new.symm

theorem holds (sound : Sound t) {held : List Received}
    (lent : ∀ packet ∈ held, t.connector.pool.Lent packet.loan) :
    Sound { t with held := held } :=
  ⟨sound.uniform, sound.waiting, lent⟩

theorem lent_of_waiting (sound : Sound t) {call : Nat} {loan : Loan}
    (found : t.calls[call]? = some (.waiting loan)) : t.connector.pool.Lent loan :=
  sound.waiting loan (List.mem_of_getElem? found)

end Sound

/-! ## What every step keeps -/

/-- What is known of a connector after it was entered. -/
theorem enter_keeps {c d : Connector} {loan? : Option Loan}
    {actions : List Connector.Action} (entered : c.enter = (loan?, d, actions))
    (uniform : c.pool.Uniform) :
    d.line = c.line ∧ d.pool.Uniform ∧ ∀ loan, loan? = some loan → d.pool.Lent loan := by
  cases closed : c.closed with
  | true =>
      rw [Connector.enter_closed closed] at entered
      cases entered
      exact ⟨c.close_line, Connector.close_uniform uniform, by simp⟩
  | false =>
      rw [Connector.enter_open closed] at entered
      cases entered
      refine ⟨by simp [Connector.line], Pool.uniform_acquire uniform, fun loan same => ?_⟩
      cases same
      exact (Pool.lent_acquire uniform).congr (by simp) (by simp)

theorem Step.keeps {t u : Traffic} {op : Op} {effect : Effect} (step : Step t op effect u)
    (sound : Sound t) : u.connector.line = t.connector.line ∧ Sound u := by
  have finished : ∀ {d : Traffic} (loan : Loan), Call.finished = .waiting loan →
      d.connector.pool.Lent loan := fun _ same => by cases same
  cases step with
  | receive entered =>
      obtain ⟨line, uniform, lent⟩ := enter_keeps entered sound.uniform
      refine ⟨line, (sound.connector line uniform).addCall fun loan same => ?_⟩
      cases same
      exact lent _ rfl
  | receiveClosed entered =>
      obtain ⟨line, uniform, -⟩ := enter_keeps entered sound.uniform
      exact ⟨line, (sound.connector line uniform).addCall finished⟩
  | resume found entered =>
      obtain ⟨line, uniform, lent⟩ := enter_keeps entered sound.uniform
      refine ⟨line, (sound.connector line uniform).setCall fun loan same => ?_⟩
      cases same
      exact lent _ rfl
  | resumeClosed found entered =>
      obtain ⟨line, uniform, -⟩ := enter_keeps entered sound.uniform
      exact ⟨line, (sound.connector line uniform).setCall finished⟩
  | skip found taken =>
      have taken := Connector.taken_of_take t.now (sound.lent_of_waiting found).capacity taken
      have next := sound.connector taken.line (taken.uniform sound.uniform)
      exact ⟨taken.line, next.setCall fun _ same => by cases same⟩
  | @deliver call loan arrival packet c actions found taken =>
      have lent := sound.lent_of_waiting found
      have taken := Connector.taken_of_take t.now lent.capacity taken
      have next : Sound { t with connector := c, calls := t.calls.set call .finished } :=
        (sound.connector taken.line (taken.uniform sound.uniform)).setCall finished
      refine ⟨taken.line, next.holds fun other member => ?_⟩
      rcases List.mem_append.1 member with old | new
      · exact next.held other old
      · obtain ⟨owner, capacity⟩ := taken.returned
        rw [List.mem_singleton.1 new]
        exact (Pool.Lent.mk (owner.trans lent.owner) (capacity.trans lent.capacity)).congr
          (congrArg Connector.Line.poolId taken.line) (congrArg Connector.Line.poolSize taken.line)
  | refuse found taken =>
      have taken := Connector.taken_of_take t.now (sound.lent_of_waiting found).capacity taken
      have next := sound.connector taken.line (taken.uniform sound.uniform)
      exact ⟨taken.line, next.setCall finished⟩
  | @stop call loan found closed =>
      have line := t.connector.fail_line loan
      have uniform := Connector.fail_uniform sound.uniform loan
      exact ⟨line, (sound.connector line uniform).setCall finished⟩
  | send opened => exact ⟨rfl, sound.addCall fun _ same => by cases same⟩
  | sendClosed closed => exact ⟨rfl, sound.addCall finished⟩
  | @answer call bytes answer result c actions found concluded =>
      obtain ⟨line, pool⟩ := t.connector.conclude_keeps t.now bytes answer
      rw [concluded] at line pool
      exact ⟨line, (sound.connector line (pool ▸ sound.uniform)).setCall finished⟩
  | cancelReceive found => exact ⟨rfl, sound.setCall finished⟩
  | cancelSend found => exact ⟨rfl, sound.setCall finished⟩
  | @recycle index packet found =>
      have line := t.connector.recycle_line packet.loan
      have sound' := sound.connector line (Pool.uniform_recycle sound.uniform packet.loan)
      exact ⟨line, sound'.holds fun other member =>
        sound'.held other (List.mem_of_mem_eraseIdx member)⟩
  | @recycleOther loan other =>
      have line := t.connector.recycle_line loan
      exact ⟨line, sound.connector line (Pool.uniform_recycle sound.uniform loan)⟩
  | free found =>
      exact ⟨rfl, sound.holds fun other member =>
        sound.held other (List.mem_of_mem_eraseIdx member)⟩
  | @edit index packet change found =>
      refine ⟨rfl, sound.holds fun other member => ?_⟩
      rcases List.mem_or_eq_of_mem_set member with old | new
      · exact sound.held other old
      · obtain ⟨owner, capacity⟩ := sound.held packet (List.mem_of_getElem? found)
        rw [new]
        exact ⟨owner, (Window.capacity_after packet.loan.window change).trans capacity⟩
  | close =>
      exact ⟨t.connector.close_line,
        sound.connector t.connector.close_line (Connector.close_uniform sound.uniform)⟩
  | markClosed => exact ⟨rfl, sound.connector rfl sound.uniform⟩
  | advance => exact ⟨rfl, ⟨sound.uniform, sound.waiting, sound.held⟩⟩

/-- **All along a run that begins with a sound connector, the connector stays on its
line and the traffic is sound.** -/
theorem Run.keeps {c : Connector} {now : Tick} {turns : List Turn} {u : Traffic}
    (ran : Run (start c now) turns u) (uniform : c.pool.Uniform) :
    (u.connector.line = c.line ∧ Sound u) ∧ ∀ turn ∈ turns,
      (turn.before.connector.line = c.line ∧ Sound turn.before) ∧
        turn.after.connector.line = c.line ∧ Sound turn.after := by
  refine ran.invariant (P := fun t => t.connector.line = c.line ∧ Sound t) ?_
    ⟨rfl, Sound.start uniform now⟩
  rintro turn - ⟨line, sound⟩
  obtain ⟨same, next⟩ := turn.step.keeps sound
  exact ⟨same.trans line, next⟩

end Traffic

end MediaTransport
