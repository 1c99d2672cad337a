/-
# MediaTransport.Proofs.Connector.Laws -- what each operation of a connector touches

A connector is looked at from three sides, and each operation has one law for each:

* its `line`, which no operation changes: the stream it serves, its addresses, the
  size and the identity of its pool, what its filter wants;
* its `books`: the counters, and the filter with counters of its own;
* its `standing`: how far its end has come.

Beside these, the actions of an operation are sorted: the packets handed to the packet
logger (`logged`) and the steps of the one closing (`closings`).

Receiving has one law for each way in which it can go on (`take_failed` to
`judge_refused`); they are equations, so what else happens on the way is in them too.
-/
import Mathlib.Algebra.Ring.Nat
import Mathlib.Data.UInt
import MediaTransport.Connector
import MediaTransport.Proofs.Filter.Screening
import MediaTransport.Proofs.Pool.Buffers

namespace MediaTransport

set_option autoImplicit false

open Net (Address Fault)

/-! ## Counters -/

namespace Counts

theorem get_add (c : Counts) (counter other : Counter) (amount : UInt64) :
    (c.add counter amount).get other =
      c.get other + if counter = other then amount else 0 := by
  cases counter <;> cases other <;> simp [add, get]

/-- A report adds to each counter what it says of it. -/
theorem get_report (c : Counts) (reports : List (Counter × UInt64)) (counter : Counter) :
    (c.report reports).get counter =
      c.get counter + (reports.map fun r => if r.1 = counter then r.2 else 0).sum := by
  induction reports generalizing c with
  | nil => simp [report]
  | cons first rest ih =>
      have later := ih (c.add first.1 first.2)
      rw [get_add] at later
      rw [List.map_cons, List.sum_cons, ← UInt64.add_assoc]
      exact later

end Counts

namespace Connector

/-! ## Three sides of a connector -/

/-- What stays the same for the life of a connector. -/
structure Line where
  protocol : Protocol
  transport : Transport
  interface : Address
  records : Bool
  poolId : PoolId
  poolSize : Nat
  wanted : Option Protocol

def line (c : Connector) : Line where
  protocol := c.protocol
  transport := c.transport
  interface := c.interface
  records := c.records
  poolId := c.pool.id
  poolSize := c.pool.size
  wanted := c.filter.map Filter.wanted

/-- What is counted. -/
structure Books where
  counts : Counts
  filter : Option Filter

def books (c : Connector) : Books where
  counts := c.counts
  filter := c.filter

/-- How far the end of a connector has come. -/
structure Standing where
  closed : Bool
  released : Bool
  poolClosed : Bool

def standing (c : Connector) : Standing where
  closed := c.closed
  released := c.released
  poolClosed := c.pool.closed

/-- The packet handed to the packet logger, if that is what is done. -/
def Action.record? : Action → Option PacketLog.Record
  | .record packet => some packet
  | _ => none

def logged (actions : List Action) : List PacketLog.Record :=
  actions.filterMap Action.record?

/-- Whether something belongs to the closing: the socket is closed or the closing is
reported. -/
def Action.closes : Action → Bool
  | .shut => true
  | .report (.closed ..) => true
  | _ => false

def closings (actions : List Action) : List Action :=
  actions.filter Action.closes

@[simp] theorem logged_append (first last : List Action) :
    logged (first ++ last) = logged first ++ logged last :=
  List.filterMap_append

@[simp] theorem closings_append (first last : List Action) :
    closings (first ++ last) = closings first ++ closings last :=
  List.filter_append first last

/-! ## Buffers and reports -/

section Reports

variable (c : Connector) (now : Tick) (loan : Loan) (event : Event)

@[simp] theorem recycle_line : (c.recycle loan).line = c.line := by
  simp [recycle, line]

@[simp] theorem recycle_books : (c.recycle loan).books = c.books := rfl

@[simp] theorem recycle_standing : (c.recycle loan).standing = c.standing := by
  simp [recycle, standing]

/-- A gate lets one report through or none. -/
theorem gated_actions :
    (c.gated now event).2 = [.report event] ∨ (c.gated now event).2 = [] := by
  unfold gated
  simp only
  split
  · exact .inl rfl
  · exact .inr rfl

variable {c now event} in
theorem eq_of_mem_gated {action : Action} (member : action ∈ (c.gated now event).2) :
    action = .report event := by
  rcases c.gated_actions now event with passed | held
  · rw [passed] at member
    exact List.mem_singleton.1 member
  · rw [held] at member
    cases member

@[simp] theorem logged_gated : logged (c.gated now event).2 = [] := by
  rcases c.gated_actions now event with passed | held <;> simp [*, logged, Action.record?]

theorem closings_gated (other : (Action.report event).closes = false) :
    closings (c.gated now event).2 = [] := by
  rcases c.gated_actions now event with passed | held <;> simp [*, closings]

end Reports

/-! ## Closing -/

section Closing

variable (c : Connector) (loan : Loan)

/-- The steps of the closing of a connector. -/
def closing : List Action :=
  [.shut, .report (.closed c.protocol c.interface c.transport)]

@[simp] theorem close_line : c.close.1.line = c.line := by
  unfold close
  split <;> rfl

@[simp] theorem close_books : c.close.1.books = c.books := by
  unfold close
  split <;> rfl

/-- Whatever it was before, the connector is closed and released. -/
theorem close_standing :
    c.close.1.standing = ⟨true, true, !c.released || c.pool.closed⟩ := by
  unfold close
  split
  · rename_i released
    simp [standing, markClosed, released]
  · rename_i released
    simp [standing, markClosed, released]

@[simp] theorem logged_close : logged c.close.2 = [] := by
  unfold close
  split <;> rfl

/-- The steps of the closing are taken unless they have been. -/
theorem closings_close : closings c.close.2 = if c.released then [] else c.closing := by
  unfold close
  split <;> rfl

theorem ask_not_mem_close : Action.ask ∉ c.close.2 := by
  unfold close
  split <;> simp

@[simp] theorem fail_line : (c.fail loan).1.line = c.line := by
  simp [fail]

@[simp] theorem fail_books : (c.fail loan).1.books = c.books := by
  simp [fail]

@[simp] theorem fail_standing :
    (c.fail loan).1.standing = ⟨true, true, !c.released || c.pool.closed⟩ := by
  simp [fail, close_standing, recycle]

@[simp] theorem logged_fail : logged (c.fail loan).2 = [] := by
  simp [fail]

theorem closings_fail : closings (c.fail loan).2 = if c.released then [] else c.closing := by
  simp only [fail, closings_close, closing]
  rfl

end Closing

/-! ## Receiving -/

/-- The octets of a packet that a socket stores in a buffer. -/
def stored (loan : Loan) (bytes : Octets) : Octets :=
  bytes.take loan.window.capacity

/-- A buffer with what a socket stores of a packet. -/
def filled (loan : Loan) (bytes : Octets) : Loan :=
  store loan (stored loan bytes)

/-- The size that a socket reports for a packet. -/
def reported (loan : Loan) (bytes : Octets) (claimed : Option Nat) : Nat :=
  claimed.getD (stored loan bytes).length

@[simp] theorem filled_capacity (loan : Loan) (bytes : Octets) :
    (filled loan bytes).window.capacity = loan.window.capacity := rfl

section Receiving

variable {c : Connector} {now : Tick} {loan : Loan}

theorem enter_closed (closed : c.closed = true) : c.enter = (none, c.close.1, c.close.2) := by
  simp [enter, closed]

theorem enter_open (opened : c.closed = false) :
    c.enter = (some c.pool.acquire.1, { c with pool := c.pool.acquire.2 }, [.ask]) := by
  simp [enter, opened]

theorem take_failed (fault : Fault) :
    let gate := c.gated now (.receiveFailed c.protocol c.interface c.transport fault)
    c.take now loan (.failed fault) =
      (.done (.error .closed), (gate.1.fail loan).1, gate.2 ++ (gate.1.fail loan).2) :=
  rfl

variable {bytes : Octets} {claimed : Option Nat} {source : Address}

/-- A read of nothing is the end of a stream. -/
theorem take_drained (tcp : c.transport = .tcp) (empty : reported loan bytes claimed = 0) :
    c.take now loan (.packet bytes claimed source) =
      (.done (.error .closed), (c.fail (filled loan bytes)).1,
        .report (.peerClosed c.protocol source c.interface) ::
          (c.fail (filled loan bytes)).2) := by
  have drained : c.transport = .tcp ∧ reported loan bytes claimed = 0 := ⟨tcp, empty⟩
  -- The report names the connector as it is after the closing, on the same line.
  have protocol : (c.fail (filled loan bytes)).1.protocol = c.protocol :=
    congrArg Line.protocol (c.fail_line (filled loan bytes))
  have interface : (c.fail (filled loan bytes)).1.interface = c.interface :=
    congrArg Line.interface (c.fail_line (filled loan bytes))
  refine (if_pos drained).trans ?_
  rw [← protocol, ← interface]
  rfl

theorem take_oversized (udp : c.transport = .udp)
    (full : c.pool.size ≤ reported loan bytes claimed) :
    c.take now loan (.packet bytes claimed source) =
      (.continue, (c.dropOversized now (filled loan bytes) source).1,
        (c.dropOversized now (filled loan bytes) source).2) := by
  have notDrained : ¬ (c.transport = .tcp ∧ reported loan bytes claimed = 0) := by simp [udp]
  have cut : c.mayBeCut (reported loan bytes claimed) = true := by simp [mayBeCut, udp, full]
  exact (if_neg notDrained).trans (if_pos cut)

/-- What is neither the end of a stream nor may have been cut short is read, within
the size that the socket reports. -/
theorem take_packet (notDrained : ¬ (c.transport = .tcp ∧ reported loan bytes claimed = 0))
    (notCut : ¬ (c.transport = .udp ∧ c.pool.size ≤ reported loan bytes claimed)) :
    c.take now loan (.packet bytes claimed source) =
      match Window.make (filled loan bytes).window.storage 0 (reported loan bytes claimed) with
      | .error e => (.done (.error (.window e)), c, [])
      | .ok window => c.judge now { filled loan bytes with window } source := by
  have whole : ¬ c.mayBeCut (reported loan bytes claimed) = true := by
    simpa [mayBeCut] using notCut
  exact (if_neg notDrained).trans (if_neg whole)

theorem judge_admitted
    (admitted : ∀ f, c.filter = some f → Packet.admits f.wanted loan.window.bytes = true) :
    c.judge now loan source =
      (.done (.ok ⟨loan, source⟩),
        { c with
          counts := c.counts.report
            [(.receivedBytes, UInt64.ofNat loan.window.length), (.receivedPkts, 1)] },
        c.recorded source false loan.window.bytes) := by
  have kept : c.screen now loan.window.bytes = (true, c, []) := by
    unfold screen
    split
    · rfl
    · rename_i f found
      rw [Filter.accept_admitted (admitted f found)]
      show (true, { c with filter := some f }, []) = (true, c, [])
      rw [← found]
  unfold judge
  rw [kept]
  rfl

theorem judge_refused {f : Filter} (filter : c.filter = some f)
    (refused : Packet.admits f.wanted loan.window.bytes = false) :
    c.judge now loan source =
      (.continue,
        { c.recycle loan with
          filter := some (f.accept now loan.window.bytes).2.1
          counts := c.counts.report [(.rejectedPkts, 1)] },
        (f.accept now loan.window.bytes).2.2.toList.map fun w => .report (.filtered w)) := by
  have dropped : c.screen now loan.window.bytes =
      (false, { c with filter := some (f.accept now loan.window.bytes).2.1 },
        (f.accept now loan.window.bytes).2.2.toList.map fun w => .report (.filtered w)) := by
    unfold screen
    rw [filter]
    simp only [(Filter.accept_refused now refused).1]
  unfold judge
  rw [dropped]
  rfl

end Receiving

section Oversized

variable (c : Connector) (now : Tick) (loan : Loan) (source : Address)

@[simp] theorem dropOversized_line : (c.dropOversized now loan source).1.line = c.line := by
  simp [dropOversized, line, recycle, gated]

@[simp] theorem dropOversized_standing :
    (c.dropOversized now loan source).1.standing = c.standing := by
  simp [dropOversized, standing, recycle, gated]

theorem dropOversized_counts :
    (c.dropOversized now loan source).1.counts = c.counts.report [(.truncatedPkts, 1)] := rfl

theorem dropOversized_filter : (c.dropOversized now loan source).1.filter = c.filter := rfl

@[simp] theorem logged_dropOversized : logged (c.dropOversized now loan source).2 = [] := by
  simp [dropOversized]

@[simp] theorem closings_dropOversized :
    closings (c.dropOversized now loan source).2 = [] := by
  simp only [dropOversized]
  exact closings_gated _ _ _ rfl

end Oversized

/-! ## Sending -/

section Sending

variable (c : Connector) (now : Tick) (bytes : Octets)

/-- A packet that the socket has taken is counted, with what it displaced, and handed
to the packet logger; no more than a report is done beside it. -/
theorem conclude_ok (delivery : Delivery) :
    let after := c.conclude now bytes (.ok delivery)
    after.1 = .ok () ∧ after.2.1.line = c.line ∧ after.2.1.standing = c.standing ∧
      after.2.1.pool = c.pool ∧ after.2.1.filter = c.filter ∧
      after.2.1.counts = c.counts.report
        [(.sendBytes, UInt64.ofNat bytes.length), (.sendPkts, 1),
          (.droppedPkts, UInt64.ofNat delivery.dropped)] ∧
      logged after.2.2 = logged (c.recorded delivery.remote true bytes) ∧
      closings after.2.2 = [] := by
  have quiet : closings (c.recorded delivery.remote true bytes) = [] := by
    unfold recorded
    split <;> rfl
  by_cases none_dropped : delivery.dropped = 0
  · have kept : c.conclude now bytes (.ok delivery) =
        (.ok (),
          { c with
            counts := c.counts.report
              [(.sendBytes, UInt64.ofNat bytes.length), (.sendPkts, 1)] },
          c.recorded delivery.remote true bytes) := by
      unfold conclude
      simp only [none_dropped, if_true, List.nil_append]
      rfl
    rw [kept]
    refine ⟨rfl, rfl, rfl, rfl, rfl, ?_, rfl, quiet⟩
    simp [Counts.report, Counts.add, none_dropped]
  · let counts := c.counts.report
      [(.sendBytes, UInt64.ofNat bytes.length), (.sendPkts, 1),
        (.droppedPkts, UInt64.ofNat delivery.dropped)]
    let gate := gated { c with counts := counts } now
      (.overflow c.protocol delivery.remote counts.droppedPkts)
    have kept : c.conclude now bytes (.ok delivery) =
        (.ok (), gate.1, gate.2 ++ c.recorded delivery.remote true bytes) := by
      unfold conclude
      simp only [none_dropped, if_false]
      rfl
    rw [kept]
    refine ⟨rfl, rfl, rfl, rfl, rfl, rfl, ?_, ?_⟩
    · rw [logged_append, logged_gated, List.nil_append]
    · rw [closings_append, closings_gated _ _ _ rfl, quiet, List.append_nil]

/-- Whatever the socket answers, a send leaves the line and the pool alone. -/
theorem conclude_keeps (answer : Except Error Delivery) :
    (c.conclude now bytes answer).2.1.line = c.line ∧
      (c.conclude now bytes answer).2.1.pool = c.pool := by
  cases answer with
  | error e => exact ⟨rfl, rfl⟩
  | ok delivery =>
      obtain ⟨-, line, -, pool, -⟩ := c.conclude_ok now bytes delivery
      exact ⟨line, pool⟩

end Sending

end Connector

end MediaTransport
