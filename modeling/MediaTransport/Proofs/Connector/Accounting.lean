/-
# MediaTransport.Proofs.Connector.Accounting -- the counters show what has happened

What has happened is read off the turns of a run, without a look at the counters: the
packets that receives have returned (`received`), the packets that were sent (`sent`),
what the socket has said to them (`answered`) and what became of all that it handed over
(`fates`).  `tally` says what each counter is meant to show, and `records` what the packet
logger is meant to get.

Each turn adds its share and nothing else (`Turn.Accounted`), so all is balanced after any
run (`run_balanced`).
-/
import MediaTransport.Proofs.Connector.Traffic

namespace MediaTransport

set_option autoImplicit false

open Net (Address)
open Counts (Counter)
open Connector (example13 example13_fresh exampleAddress examplePacket)

namespace Connector

/-- The packets that the filter of a connector has dropped. -/
def filtered (c : Connector) : UInt64 :=
  match c.filter with
  | none => 0
  | some f => f.drops

/-- The record of a packet on a line. -/
def Line.record (line : Line) (remote : Address) (outbound : Bool) (bytes : Octets) :
    PacketLog.Record :=
  ⟨line.protocol, line.interface, remote, line.transport, outbound, bytes⟩

@[simp] theorem logged_recorded (c : Connector) (remote : Address) (outbound : Bool)
    (bytes : Octets) :
    logged (c.recorded remote outbound bytes) =
      if c.line.records then [c.line.record remote outbound bytes] else [] := by
  unfold recorded line
  split <;> rfl

theorem filtered_of_filter {c d : Connector} (same : d.filter = c.filter) :
    d.filtered = c.filtered := by
  simp only [filtered, same]

theorem filtered_eq {c : Connector} {f : Filter} (filter : c.filter = some f) :
    c.filtered = f.drops := by
  simp only [filtered, filter]

end Connector

namespace Traffic

/-! ## What happens in a turn -/

namespace Turn

/-- The packet that a receive returns. -/
def received (turn : Turn) : List Received :=
  match turn.effect.outcome with
  | some (.received (.ok packet)) => [packet]
  | _ => []

/-- The packet of a send that returns without an error. -/
def sent (turn : Turn) : List Octets :=
  match turn.effect.outcome with
  | some (.sent bytes (.ok ())) => [bytes]
  | _ => []

/-- Where the socket says that a packet went. -/
def answered (turn : Turn) : List Delivery :=
  match turn.op with
  | .answer _ (.ok delivery) => [delivery]
  | _ => []

/-- What becomes of what the socket hands over. -/
def fates (turn : Turn) : List Connector.Fate :=
  match turn.op with
  | .take call arrival =>
    match turn.before.calls[call]? with
    | some (.waiting loan) => [turn.before.connector.fate loan arrival]
    | _ => []
  | _ => []

/-- The record of the packet that is received or sent. -/
def records (turn : Turn) : List PacketLog.Record :=
  let line := turn.before.connector.line
  (turn.received.map fun packet => line.record packet.source false packet.loan.window.bytes) ++
    List.zipWith (fun bytes delivery => line.record delivery.remote true bytes) turn.sent
      turn.answered

end Turn

section Runs

variable (turns : List Turn)

def received : List Received :=
  turns.flatMap Turn.received

def sent : List Octets :=
  turns.flatMap Turn.sent

def answered : List Delivery :=
  turns.flatMap Turn.answered

def fates : List Connector.Fate :=
  turns.flatMap Turn.fates

def records : List PacketLog.Record :=
  turns.flatMap Turn.records

/-- What a counter is meant to show. -/
def tally : Counter → Nat
  | .receivedBytes => ((received turns).map fun packet => packet.loan.window.length).sum
  | .sendBytes => ((sent turns).map List.length).sum
  | .receivedPkts => (received turns).length
  | .sendPkts => (sent turns).length
  | .rejectedPkts => (fates turns).count .rejected
  | .droppedPkts => ((answered turns).map Delivery.dropped).sum
  | .truncatedPkts => (fates turns).count .truncated

end Runs

theorem fates_cons (turn : Turn) (rest : List Turn) :
    fates (turn :: rest) = turn.fates ++ fates rest := rfl

theorem records_cons (turn : Turn) (rest : List Turn) :
    records (turn :: rest) = turn.records ++ records rest := rfl

section Singleton

variable (turn : Turn)

@[simp] theorem received_singleton : received [turn] = turn.received := by
  simp [received]

@[simp] theorem sent_singleton : sent [turn] = turn.sent := by
  simp [sent]

@[simp] theorem answered_singleton : answered [turn] = turn.answered := by
  simp [answered]

@[simp] theorem fates_singleton : fates [turn] = turn.fates := by
  simp [fates]

end Singleton

theorem tally_cons (turn : Turn) (rest : List Turn) (counter : Counter) :
    tally (turn :: rest) counter = tally [turn] counter + tally rest counter := by
  cases counter <;> simp [tally, received, sent, answered, fates]

/-! ## One turn -/

/-- What a turn does about something handed over, by its fate. -/
def Turn.Meets (turn : Turn) : Connector.Fate → Prop
  | .delivered =>
    (∃ packet, turn.effect.outcome = some (.received (.ok packet))) ∧
      turn.after.connector.filter = turn.before.connector.filter
  | .rejected =>
    turn.effect.outcome = none ∧
      turn.after.connector.filtered = turn.before.connector.filtered + 1
  | .truncated =>
    turn.effect.outcome = none ∧ turn.after.connector.filter = turn.before.connector.filter
  | .ended =>
    (∃ e, turn.effect.outcome = some (.received (.error e))) ∧
      turn.after.connector.books = turn.before.connector.books

/-- A turn counts and records what happens in it, and nothing else. -/
structure Turn.Accounted (turn : Turn) : Prop where
  counts : ∀ counter, turn.after.connector.counts.get counter =
    turn.before.connector.counts.get counter + .ofNat (tally [turn] counter)
  filter : turn.after.connector.filtered =
    turn.before.connector.filtered + .ofNat (turn.fates.count .rejected)
  logged : Connector.logged turn.effect.actions =
    if turn.before.connector.line.records then turn.records else []
  paired : turn.sent.length = turn.answered.length
  sorted : turn.fates.length = turn.arrivals.length
  delivered : turn.received.length = turn.fates.count .delivered
  met : ∀ fate ∈ turn.fates, turn.Meets fate

namespace Turn

/-- A turn in which no packet comes or goes and nothing is counted. -/
theorem accounted_of_quiet {turn : Turn}
    (books : turn.after.connector.books = turn.before.connector.books)
    (silent : Connector.logged turn.effect.actions = []) (received : turn.received = [])
    (sent : turn.sent = []) (answered : turn.answered = []) (arrivals : turn.arrivals = [])
    (fates : turn.fates = []) : turn.Accounted := by
  have counts : turn.after.connector.counts = turn.before.connector.counts :=
    congrArg Connector.Books.counts books
  have filter : turn.after.connector.filter = turn.before.connector.filter :=
    congrArg Connector.Books.filter books
  refine ⟨fun counter => ?_, ?_, ?_, ?_, ?_, ?_, ?_⟩
  · rw [counts]
    cases counter <;>
      simp [tally, received, sent, answered, fates]
  · rw [Connector.filtered_of_filter filter, fates]
    simp
  · simp [silent, records, received, sent]
  · simp [sent, answered]
  · simp [fates, arrivals]
  · simp [received, fates]
  · simp [fates]

/-- What is counted in a turn that reports to the counters. -/
theorem counts_of_report {turn : Turn} {reports : List (Counter × UInt64)}
    (counts : turn.after.connector.counts = turn.before.connector.counts.report reports)
    (shares : ∀ counter, (reports.map fun r => if r.1 = counter then r.2 else 0).sum =
      .ofNat (tally [turn] counter)) (counter : Counter) :
    turn.after.connector.counts.get counter =
      turn.before.connector.counts.get counter + .ofNat (tally [turn] counter) := by
  rw [counts, Counts.get_report, shares]

section Take

variable {t : Traffic} {call : Nat} {loan : Loan} {arrival : Arrival} {c : Connector}
  {actions : List Connector.Action}

/-- The fate in a turn of something handed over. -/
theorem fates_of_take (turn : Turn) (op : turn.op = .take call arrival)
    (found : turn.before.calls[call]? = some (.waiting loan)) :
    turn.fates = [turn.before.connector.fate loan arrival] := by
  simp [fates, op, found]

theorem accounted_of_deliver {packet : Received}
    (found : t.calls[call]? = some (.waiting loan))
    (lent : loan.window.capacity = t.connector.pool.size)
    (taken : t.connector.take t.now loan arrival = (.done (.ok packet), c, actions)) :
    Accounted ⟨t, _, _, _, .deliver found taken⟩ := by
  have fate := fates_of_take ⟨t, _, _, _, .deliver found taken⟩ rfl found
  cases Connector.taken_of_take t.now lent taken with
  | delivered delivered =>
      simp only [delivered] at fate
      refine ⟨counts_of_report rfl fun counter => ?_, ?_, ?_, rfl, ?_, ?_, ?_⟩
      · cases counter <;> simp [tally, received, sent, answered, fate]
      · simp [fate, Connector.filtered]
      · simp [records, received, sent]
      · simp [fate, arrivals]
      · simp [received, fate]
      · simp [fate, Meets]

theorem accounted_of_skip (found : t.calls[call]? = some (.waiting loan))
    (lent : loan.window.capacity = t.connector.pool.size)
    (taken : t.connector.take t.now loan arrival = (.continue, c, actions)) :
    Accounted ⟨t, _, _, _, .skip found taken⟩ := by
  have fate := fates_of_take ⟨t, _, _, _, .skip found taken⟩ rfl found
  cases Connector.taken_of_take t.now lent taken with
  | @rejected bytes claimed source window f rejected filter refused =>
      simp only [rejected] at fate
      have drops := (Filter.accept_refused t.now refused).2.2
      have more : ∀ d : Connector, d.filter = some (f.accept t.now window.bytes).2.1 →
          d.filtered = t.connector.filtered + 1 := by
        intro d same
        rw [Connector.filtered_eq same, Connector.filtered_eq filter, drops]
      have silent : Connector.logged ((f.accept t.now window.bytes).2.2.toList.map
          fun w => .report (.filtered w)) = [] := by
        simp [Connector.logged, Connector.Action.record?]
      refine ⟨counts_of_report rfl fun counter => ?_, ?_, ?_, rfl, ?_, ?_, ?_⟩
      · cases counter <;> simp [tally, received, sent, answered, fate]
      · simpa [fate] using more _ rfl
      · simp [records, received, sent, silent]
      · simp [fate, arrivals]
      · simp [received, fate]
      · simpa [fate, Meets] using more _ rfl
  | @truncated bytes claimed source truncated =>
      simp only [truncated] at fate
      have counts := t.connector.dropOversized_counts t.now (Connector.filled loan bytes) source
      have filter := t.connector.dropOversized_filter t.now (Connector.filled loan bytes) source
      refine ⟨counts_of_report counts fun counter => ?_, ?_, ?_, rfl, ?_, ?_, ?_⟩
      · cases counter <;> simp [tally, received, sent, answered, fate]
      · simpa [fate] using Connector.filtered_of_filter filter
      · simp [records, received, sent]
      · simp [fate, arrivals]
      · simp [received, fate]
      · simpa [fate, Meets] using filter

theorem accounted_of_refuse {e : Connector.Error}
    (found : t.calls[call]? = some (.waiting loan))
    (lent : loan.window.capacity = t.connector.pool.size)
    (taken : t.connector.take t.now loan arrival = (.done (.error e), c, actions)) :
    Accounted ⟨t, _, _, _, .refuse found taken⟩ := by
  have fate := fates_of_take ⟨t, _, _, _, .refuse found taken⟩ rfl found
  have told := Connector.taken_of_take t.now lent taken
  have ended : t.connector.fate loan arrival = .ended := told.fate
  simp only [ended] at fate
  have untouched : c.books = t.connector.books ∧ Connector.logged actions = [] := by
    cases told with
    | @ended _ d given _ _ _ books _ _ silent =>
        exact ⟨(d.fail_books given).trans books, by simp [silent]⟩
    | overrun => exact ⟨rfl, rfl⟩
  obtain ⟨books, silent⟩ := untouched
  have counts : c.counts = t.connector.counts := congrArg Connector.Books.counts books
  have filter : c.filter = t.connector.filter := congrArg Connector.Books.filter books
  refine ⟨@counts_of_report _ [] counts fun counter => ?_, ?_, ?_, rfl, ?_, ?_, ?_⟩
  · cases counter <;> simp [tally, received, sent, answered, fate]
  · simpa [fate] using Connector.filtered_of_filter filter
  · simp [records, received, sent, silent]
  · simp [fate, arrivals]
  · simp [received, fate]
  · simpa [fate, Meets] using books

end Take

theorem accounted_of_answer {t : Traffic} {call : Nat} {bytes : Octets} {delivery : Delivery}
    {result : Except Connector.Error Unit} {c : Connector} {actions : List Connector.Action}
    (found : t.calls[call]? = some (.offered bytes))
    (concluded : t.connector.conclude t.now bytes (.ok delivery) = (result, c, actions)) :
    Accounted ⟨t, _, _, _, .answer found concluded⟩ := by
  obtain ⟨ok, line, -, -, filter, counts, recorded, -⟩ :=
    t.connector.conclude_ok t.now bytes delivery
  rw [concluded] at ok line filter counts recorded
  subst ok
  refine ⟨counts_of_report counts fun counter => ?_, ?_, ?_, rfl, rfl, rfl, ?_⟩
  · cases counter <;>
      simp [tally, received, sent, answered, fates]
  · simpa [fates] using Connector.filtered_of_filter filter
  · simpa [records, received, sent, answered] using recorded
  · simp [fates]

/-- **A turn counts and records what happens in it, and nothing else.** -/
theorem accounted (turn : Turn) (sound : Sound turn.before) : turn.Accounted := by
  obtain ⟨t, op, effect, u, step⟩ := turn
  have entered_quiet : ∀ {c d : Connector} {loan? : Option Loan}
      {actions : List Connector.Action}, c.enter = (loan?, d, actions) →
        d.books = c.books ∧ Connector.logged actions = [] := by
    intro c d loan? actions entered
    cases closed : c.closed with
    | true =>
        rw [Connector.enter_closed closed] at entered
        cases entered
        exact ⟨c.close_books, c.logged_close⟩
    | false =>
        rw [Connector.enter_open closed] at entered
        cases entered
        exact ⟨rfl, rfl⟩
  cases step with
  | receive entered =>
      obtain ⟨books, silent⟩ := entered_quiet entered
      exact accounted_of_quiet books silent rfl rfl rfl rfl rfl
  | receiveClosed entered =>
      obtain ⟨books, silent⟩ := entered_quiet entered
      exact accounted_of_quiet books silent rfl rfl rfl rfl rfl
  | resume found entered =>
      obtain ⟨books, silent⟩ := entered_quiet entered
      exact accounted_of_quiet books silent rfl rfl rfl rfl rfl
  | resumeClosed found entered =>
      obtain ⟨books, silent⟩ := entered_quiet entered
      exact accounted_of_quiet books silent rfl rfl rfl rfl rfl
  | skip found taken =>
      exact accounted_of_skip found (sound.lent_of_waiting found).capacity taken
  | deliver found taken =>
      exact accounted_of_deliver found (sound.lent_of_waiting found).capacity taken
  | refuse found taken =>
      exact accounted_of_refuse found (sound.lent_of_waiting found).capacity taken
  | @stop call loan found closed =>
      exact accounted_of_quiet (t.connector.fail_books loan) (t.connector.logged_fail loan)
        rfl rfl rfl rfl rfl
  | @answer call bytes answer result c actions found concluded =>
      cases answer with
      | ok delivery => exact accounted_of_answer found concluded
      | error e =>
          cases concluded
          exact accounted_of_quiet rfl rfl rfl rfl rfl rfl rfl
  | close =>
      exact accounted_of_quiet t.connector.close_books t.connector.logged_close
        rfl rfl rfl rfl rfl
  | send _ | sendClosed _ | cancelReceive _ | cancelSend _ | recycle _ | recycleOther _ | free _
  | edit _ | markClosed | advance =>
      exact accounted_of_quiet rfl rfl rfl rfl rfl rfl rfl

end Turn

/-! ## A whole run -/

section Totals

variable {t u : Traffic} {turns : List Turn}

theorem Run.counts (ran : Run t turns u) (accounted : ∀ turn ∈ turns, turn.Accounted)
    (counter : Counter) : u.connector.counts.get counter =
      t.connector.counts.get counter + .ofNat (tally turns counter) := by
  induction ran with
  | stop t => cases counter <;> exact (UInt64.add_zero _).symm
  | @turn head rest u later ih =>
      have first := (accounted head List.mem_cons_self).counts counter
      rw [ih fun turn member => accounted turn (List.mem_cons_of_mem _ member), first,
        tally_cons head rest, UInt64.ofNat_add, UInt64.add_assoc]

theorem Run.filtered (ran : Run t turns u) (accounted : ∀ turn ∈ turns, turn.Accounted) :
    u.connector.filtered =
      t.connector.filtered + .ofNat ((fates turns).count .rejected) := by
  induction ran with
  | stop t => exact (UInt64.add_zero _).symm
  | @turn head rest u later ih =>
      have first := (accounted head List.mem_cons_self).filter
      rw [ih fun turn member => accounted turn (List.mem_cons_of_mem _ member), first, fates_cons,
        List.count_append, UInt64.ofNat_add, UInt64.add_assoc]

theorem logged_actions {recording : Bool} (accounted : ∀ turn ∈ turns, turn.Accounted)
    (line : ∀ turn ∈ turns, turn.before.connector.line.records = recording) :
    Connector.logged (actions turns) = if recording then records turns else [] := by
  induction turns with
  | nil => simp [actions, records, Connector.logged]
  | cons head rest ih =>
      have first := (accounted head List.mem_cons_self).logged
      have later := ih (fun turn member => accounted turn (List.mem_cons_of_mem _ member))
        fun turn member => line turn (List.mem_cons_of_mem _ member)
      rw [actions_cons, Connector.logged_append, first, later, line head List.mem_cons_self,
        records_cons]
      split <;> rfl

theorem length_records (accounted : ∀ turn ∈ turns, turn.Accounted) :
    (records turns).length = (received turns).length + (sent turns).length := by
  induction turns with
  | nil => rfl
  | cons head rest ih =>
      have later := ih fun turn member => accounted turn (List.mem_cons_of_mem _ member)
      have first : head.records.length = head.received.length + head.sent.length := by
        simp [Turn.records, (accounted head List.mem_cons_self).paired]
      simp only [records, received, sent, List.flatMap_cons, List.length_append] at later ⊢
      omega

theorem length_received (accounted : ∀ turn ∈ turns, turn.Accounted) :
    (received turns).length = (fates turns).count .delivered := by
  rw [received, fates, List.length_flatMap, List.count_flatMap]
  exact congrArg List.sum (List.map_congr_left fun turn member => (accounted turn member).delivered)

end Totals

/-- Nothing that happened on a connector is missing from its books, or in them twice. -/
structure Balanced (c : Connector) (turns : List Turn) (t : Traffic) : Prop where
  /-- Every counter shows what it is meant to show, up to wrapping around. -/
  counts : ∀ counter, t.connector.counts.get counter = .ofNat (tally turns counter)
  /-- The connector and its filter agree on what was rejected. -/
  filtered : t.connector.counts.rejectedPkts = t.connector.filtered
  /-- The packet logger got the packets as they came and went. -/
  logged : Connector.logged (actions turns) = if c.records then records turns else []
  recorded : (records turns).length = (received turns).length + (sent turns).length
  /-- All that was handed over to a receive has met its fate, and no other. -/
  sorted : ∀ turn ∈ turns, ∀ call arrival, turn.op = .take call arrival →
    ∃ loan, turn.before.calls[call]? = some (.waiting loan) ∧
      turn.fates = [turn.before.connector.fate loan arrival] ∧
      turn.Meets (turn.before.connector.fate loan arrival)
  delivered : (received turns).length = (fates turns).count .delivered

/-- **Whatever happens on a fresh connector, and in which order, its counters, its filter
and its packet logger tell of it exactly.** -/
theorem run_balanced {c : Connector} {now : Tick} {turns : List Turn} {t : Traffic}
    (fresh : c.Fresh) (ran : Run (start c now) turns t) : Balanced c turns t := by
  obtain ⟨-, kept⟩ := ran.keeps fresh.uniform
  have accounted : ∀ turn ∈ turns, turn.Accounted := fun turn member =>
    turn.accounted (kept turn member).1.2
  have counts : ∀ counter, t.connector.counts.get counter = .ofNat (tally turns counter) := by
    intro counter
    have zero : c.counts.get counter = 0 := by
      rw [fresh.counts]
      cases counter <;> rfl
    exact (ran.counts accounted counter).trans (by rw [start, zero, UInt64.zero_add])
  have untouched : c.filtered = 0 := by
    unfold Connector.filtered
    split
    · rfl
    · rename_i f filter
      simp [Filter.drops, fresh.filter f filter]
  refine ⟨counts, ?_, ?_, length_records accounted, ?_, length_received accounted⟩
  · have rejected := counts .rejectedPkts
    have filtered := ran.filtered accounted
    rw [start, untouched, UInt64.zero_add] at filtered
    exact rejected.trans filtered.symm
  · exact logged_actions accounted fun turn member =>
      congrArg Connector.Line.records (kept turn member).1.1
  · intro turn member call arrival op
    have one : turn.fates.length = 1 := by
      simp [(accounted turn member).sorted, Turn.arrivals, op]
    have met := (accounted turn member).met
    simp only [Turn.fates, op] at one met ⊢
    split at one
    · rename_i loan found
      simp only [found] at met ⊢
      exact ⟨loan, rfl, rfl, met _ (List.mem_singleton_self _)⟩
    · cases one

/-- Noise, a datagram that is too long, a media packet, and a packet that is sent
meanwhile and displaces two others. -/
theorem balanced_after_four_packets :
    example13.Fresh ∧ ∃ turns t, Run (start example13 0) turns t ∧
      turns.map Turn.op =
        [.receive, .take 0 (.packet [1, 2] none exampleAddress), .resume 0,
          .take 0 (.packet (List.replicate 20 0) none exampleAddress), .send [7] none, .resume 0,
          .take 0 (.packet examplePacket none exampleAddress),
          .answer 1 (.ok ⟨exampleAddress, 2⟩)] ∧
      Balanced example13 turns t := by
  have ran :=
    Run.turn ⟨start example13 0, .receive, _, _, .receive rfl⟩ <|
    .turn ⟨_, .take 0 (.packet [1, 2] none exampleAddress), _, _, .skip rfl rfl⟩ <|
    .turn ⟨_, .resume 0, _, _, .resume rfl rfl⟩ <|
    .turn ⟨_, .take 0 (.packet (List.replicate 20 0) none exampleAddress), _, _, .skip rfl rfl⟩ <|
    .turn ⟨_, .send [7] none, _, _, .send rfl⟩ <|
    .turn ⟨_, .resume 0, _, _, .resume rfl rfl⟩ <|
    .turn ⟨_, .take 0 (.packet examplePacket none exampleAddress), _, _, .deliver rfl rfl⟩ <|
    .turn ⟨_, .answer 1 (.ok ⟨exampleAddress, 2⟩), _, _, .answer rfl rfl⟩ <|
    .stop _
  exact ⟨example13_fresh, _, _, ran, rfl, run_balanced example13_fresh ran⟩

end Traffic

end MediaTransport
