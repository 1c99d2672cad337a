/-
# MediaTransport.Proofs.Connector.Polls -- polls and sends are runs

A poll goes through what a socket has ready in one sweep, and a send takes the answer of
the socket at once.  Both are runs: a poll is the turns of one receive up to the next
wait (`poll_polls`, `poll_polls_again`), a send is a turn or two (`send_runs`).  So what
holds of all runs holds of them, with anything else in between.
-/
import MediaTransport.Proofs.Connector.Traffic

namespace MediaTransport.Traffic

set_option autoImplicit false

open Net (Address)
open Connector (Polled pump)

/-- Turns of one receive that do what a poll does: what the poll takes from the inbox, how
it acts, what it answers and the connector that it leaves. -/
structure Polls (t : Traffic) (call : Nat) (inbox : List Arrival) (polled : Polled)
    (turns : List Turn) (u : Traffic) : Prop where
  ran : Run t turns u
  took : arrivals turns ++ polled.inbox = inbox
  did : actions turns = polled.actions
  answers : match polled.result with
    | .pending =>
      outcomes turns = [] ∧ ∃ loan, u.calls[call]? = some (.waiting loan) ∧
        polled.connector = { u.connector with waiting := some loan }
    | .ready result =>
      outcomes turns = [.received result] ∧ polled.connector = u.connector

namespace Polls

/-- The turn in which a receive returns. -/
theorem of_turn (turn : Turn) {call : Nat} {result : Except Connector.Error Received}
    (outcome : turn.effect.outcome = some (.received result)) (left : List Arrival) :
    Polls turn.before call (turn.arrivals ++ left)
      ⟨.ready result, turn.after.connector, turn.effect.actions, left⟩ [turn] turn.after where
  ran := .turn turn (.stop _)
  took := by simp [arrivals]
  did := by simp [actions]
  answers := ⟨by simp [outcomes, outcome], rfl⟩

/-- A turn in which the receive goes on. -/
theorem cons (turn : Turn) {call : Nat} {inbox : List Arrival} {polled : Polled}
    {turns : List Turn} {u : Traffic} (silent : turn.effect.outcome = none)
    (later : Polls turn.after call inbox polled turns u) :
    Polls turn.before call (turn.arrivals ++ inbox)
      { polled with actions := turn.effect.actions ++ polled.actions } (turn :: turns) u where
  ran := .turn turn later.ran
  took := by rw [arrivals_cons, List.append_assoc, later.took]
  did := by rw [actions_cons, later.did]
  answers := by
    have same : outcomes (turn :: turns) = outcomes turns := by simp [outcomes, silent]
    rw [same]
    exact later.answers

end Polls

section Pump

variable {c d e : Connector} {now : Tick} {loan next : Loan} {arrival : Arrival}
  {first more : List Connector.Action} (inbox : List Arrival)

theorem pump_of_closed (closed : c.closed = true) : pump now inbox c loan = c.stop loan inbox := by
  cases inbox <;> exact if_pos closed

theorem pump_nil (opened : ¬ c.closed = true) :
    pump now [] c loan = ⟨.pending, { c with waiting := some loan }, [], []⟩ :=
  if_neg opened

theorem pump_done (opened : ¬ c.closed = true) {result : Except Connector.Error Received}
    (taken : c.take now loan arrival = (.done result, d, first)) :
    pump now (arrival :: inbox) c loan = ⟨.ready result, d, first, inbox⟩ := by
  rw [pump, if_neg opened, taken]

theorem pump_closed_between (opened : ¬ c.closed = true)
    (taken : c.take now loan arrival = (.continue, d, first))
    (entered : d.enter = (none, e, more)) :
    pump now (arrival :: inbox) c loan =
      ⟨.ready (.error .closed), e, first ++ more, inbox⟩ := by
  simp only [pump, if_neg opened, taken, entered]

theorem pump_next (opened : ¬ c.closed = true)
    (taken : c.take now loan arrival = (.continue, d, first))
    (entered : d.enter = (some next, e, more)) :
    pump now (arrival :: inbox) c loan =
      { pump now inbox e next with
        actions := first ++ (more ++ (pump now inbox e next).actions) } := by
  simp only [pump, if_neg opened, taken, entered, List.append_assoc]

theorem poll_closed (idle : c.waiting = none)
    (entered : Connector.enter { c with receiving := true } = (none, d, first)) :
    c.poll now inbox = ⟨.ready (.error .closed), d, first, inbox⟩ := by
  unfold Connector.poll
  split
  · rename_i underWay
    cases idle.symm.trans underWay
  · rw [entered]

theorem poll_begins (idle : c.waiting = none)
    (entered : Connector.enter { c with receiving := true } = (some loan, d, first)) :
    c.poll now inbox =
      { pump now inbox d loan with actions := first ++ (pump now inbox d loan).actions } := by
  unfold Connector.poll
  split
  · rename_i underWay
    cases idle.symm.trans underWay
  · rw [entered]

end Pump

section Receive

variable {t : Traffic} {call : Nat} {loan : Loan}

theorem stop_polls (found : t.calls[call]? = some (.waiting loan))
    (closed : t.connector.closed = true) (inbox : List Arrival) :
    ∃ turns u, Polls t call inbox (t.connector.stop loan inbox) turns u :=
  ⟨_, _, .of_turn ⟨t, .stop call, _, _, .stop found closed⟩ rfl inbox⟩

/-- A receive that waits goes through what the socket has ready. -/
theorem pump_polls (found : t.calls[call]? = some (.waiting loan)) (inbox : List Arrival) :
    ∃ turns u, Polls t call inbox (pump t.now inbox t.connector loan) turns u := by
  -- On what is left of the inbox; each packet that is dropped costs two turns.
  induction inbox generalizing t loan with
  | nil =>
      by_cases closed : t.connector.closed = true
      · rw [pump_of_closed [] closed]
        exact stop_polls found closed []
      · rw [pump_nil closed]
        exact ⟨[], t, .stop t, rfl, rfl, rfl, loan, found, rfl⟩
  | cons arrival rest ih =>
      by_cases closed : t.connector.closed = true
      · rw [pump_of_closed (arrival :: rest) closed]
        exact stop_polls found closed (arrival :: rest)
      rcases taken : t.connector.take t.now loan arrival with ⟨progress | result, c, first⟩
      · let skipped : Turn := ⟨t, .take call arrival, _, _, .skip found taken⟩
        have looking : skipped.after.calls[call]? = some .looking :=
          getElem?_set_of_getElem? found _
        rcases entered : c.enter with ⟨given | next, d, more⟩
        · rw [pump_closed_between rest closed taken entered]
          exact ⟨_, _, .cons skipped rfl <|
            .of_turn ⟨skipped.after, .resume call, _, _, .resumeClosed looking entered⟩ rfl rest⟩
        · let resumed : Turn := ⟨skipped.after, .resume call, _, _, .resume looking entered⟩
          have waiting : resumed.after.calls[call]? = some (.waiting next) :=
            getElem?_set_of_getElem? looking _
          obtain ⟨turns, u, later⟩ := ih waiting
          rw [pump_next rest closed taken entered]
          exact ⟨_, u, .cons skipped rfl (.cons resumed rfl later)⟩
      · rw [pump_done rest closed taken]
        cases result with
        | ok packet =>
            exact ⟨_, _, .of_turn ⟨t, .take call arrival, _, _, .deliver found taken⟩ rfl rest⟩
        | error e =>
            exact ⟨_, _, .of_turn ⟨t, .take call arrival, _, _, .refuse found taken⟩ rfl rest⟩

end Receive

/-- **A poll that begins a receive is a run of that receive.** -/
theorem poll_polls {t : Traffic} (idle : t.connector.waiting = none) (inbox : List Arrival) :
    ∃ turns u, Polls t t.calls.length inbox (t.connector.poll t.now inbox) turns u := by
  rcases entered : Connector.enter { t.connector with receiving := true } with
    ⟨given | loan, c, first⟩
  · rw [poll_closed inbox idle entered]
    exact ⟨_, _, .of_turn ⟨t, .receive, _, _, .receiveClosed entered⟩ rfl inbox⟩
  · let begun : Turn := ⟨t, .receive, _, _, .receive entered⟩
    have waiting : begun.after.calls[t.calls.length]? = some (.waiting loan) :=
      List.getElem?_concat_length
    obtain ⟨turns, u, later⟩ := pump_polls waiting inbox
    rw [poll_begins inbox idle entered]
    exact ⟨_, u, .cons begun rfl later⟩

/-- **A poll that goes on with a receive is a run of that receive.** -/
theorem poll_polls_again {c : Connector} {loan : Loan} (underWay : c.waiting = some loan)
    {t : Traffic} (same : t.connector = { c with waiting := none }) {call : Nat}
    (found : t.calls[call]? = some (.waiting loan)) (inbox : List Arrival) :
    ∃ turns u, Polls t call inbox (c.poll t.now inbox) turns u := by
  have answered : c.poll t.now inbox = pump t.now inbox t.connector loan := by
    simp only [Connector.poll, underWay, same]
  rw [answered]
  exact pump_polls found inbox

/-- **A send is a run.** -/
theorem send_runs {t : Traffic} {bytes : Octets} {target : Option Address}
    {answer : Except Connector.Error Delivery} {result : Except Connector.Error Unit}
    {c : Connector} {first : List Connector.Action}
    (sent : t.connector.send t.now bytes target answer = (result, c, first)) :
    ∃ turns u, Run t turns u ∧ u.connector = c ∧ actions turns = first ∧
      outcomes turns = [.sent bytes result] := by
  unfold Connector.send at sent
  split at sent
  · rename_i closed
    cases sent
    exact ⟨_, _, .turn ⟨t, .send bytes target, _, _, .sendClosed closed⟩ (.stop _), rfl, rfl, rfl⟩
  · rename_i opened
    rcases concluded : t.connector.conclude t.now bytes answer with ⟨told, d, more⟩
    rw [concluded] at sent
    cases sent
    let offered : Turn := ⟨t, .send bytes target, _, _, .send (by simpa using opened)⟩
    have waits : offered.after.calls[t.calls.length]? = some (.offered bytes) :=
      List.getElem?_concat_length
    let answered : Turn :=
      ⟨offered.after, .answer t.calls.length answer, _, _, .answer waits concluded⟩
    refine ⟨_, _, .turn offered (.turn answered (.stop _)), rfl, ?_, rfl⟩
    simp [actions, offered, answered]

end MediaTransport.Traffic
