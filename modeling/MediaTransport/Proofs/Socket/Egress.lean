/-
# MediaTransport.Proofs.Socket.Egress -- what a stream hands to its host

A stream goes through turns: packets are sent, its writer looks for one or writes octets of
the one that it is at, and the stream is closed.  `Acts` says all that a turn can do, and the
laws of a turn split its cases.  An effect also tells how the turn uses the queue
(`Effect.uses`), so the queue goes through a history of its own and keeps what is proved of
such histories.

Three laws hold in any order of turns, however the host answers to the writes:

* the octets handed to the host are those of the packets that the writer took, whole, except
  that the last one may be under way or have been cut short by a write that failed (`Wired`);
* until the stream is closed or a write fails, the packets sent are those that have left the
  queue, taken by the writer or displaced by later ones, followed by the queued ones
  (`conserved`); even after that the writer took them in the order in which they were sent
  (`taken_sublist`);
* a write that fails is the end of it (`Broken`).

The queue of a stream has one pop at most, that of the writer (`alone`).  So a writer that
waits beside a packet takes it as soon as it looks (`fetch_takes`), and one that waits on a
closed queue stops (`fetch_stops`).
-/
import Mathlib.Algebra.Ring.Nat
import MediaTransport.Proofs.SendQueue.Conservation
import MediaTransport.Proofs.SendQueue.Wakeups
import MediaTransport.Socket.Stream

namespace MediaTransport

set_option autoImplicit false

open Net (Address Fault)

/-- The packet, if a push dropped it. -/
def SendQueue.Departure.dropped? : SendQueue.Departure → Option Octets
  | .returned .. => none
  | .dropped packet => some packet

namespace Socket

/-- Whether a write has failed: there was a fault, or the host took nothing. -/
def WriteAnswer.fails : WriteAnswer → Bool
  | .accepted 0 => true
  | .accepted _ => false
  | .wouldBlock => false
  | .failed _ => true

def Writer.isWriting : Writer → Bool
  | .writing _ => true
  | _ => false

namespace Stream

open SendQueue (Departure pushed departed)

/-! ## Turns -/

/-- What may happen to a stream. -/
inductive Op where
  | send (bytes : Octets)
  /-- The writer looks for a packet. -/
  | fetch
  /-- The writer writes, and the host answers. -/
  | write (answer : WriteAnswer)
  | close

/-- What happens then. -/
structure Effect where
  after : Stream
  /-- How the queue is used. -/
  uses : List SendQueue.Op := []
  /-- The packets that leave the queue. -/
  departures : List Departure := []
  /-- The packet of a send that returns without an error, and what the send answers. -/
  delivered : List (Octets × Delivery) := []
  /-- The octets that the host takes. -/
  handed : Octets := []
  /-- Whether a write of the packet under way fails. -/
  fails : Bool := false

/-- Something that uses the queue. -/
def Effect.using (s after : Stream) (use : SendQueue.Op) : Effect where
  after := after
  uses := [use]
  departures := departed (SendQueue.turns s.queue [use])

def effect (s : Stream) : Op → Effect
  | .send bytes =>
    match s.send bytes with
    | (.ok delivery, after) =>
      { Effect.using s after (.push bytes) with delivered := [(bytes, delivery)] }
    | (.error _, after) => { after }
  | .fetch =>
    let after := s.fetch.1
    if s.writer = .waiting then .using s after (.poll writerName) else { after }
  | .write answer =>
    let (handed, after, _) := s.write answer
    if s.writer.isWriting && answer.fails then
      { Effect.using s after .close with handed, fails := true }
    else { after, handed }
  | .close => .using s s.close .close

section Operations

variable (s : Stream) (bytes : Octets) (answer : WriteAnswer)

theorem after_send : (s.effect (.send bytes)).after = (s.send bytes).2 := by
  rcases told : s.send bytes with ⟨_ | _, _⟩ <;> simp [effect, told, Effect.using]

theorem after_fetch : (s.effect .fetch).after = s.fetch.1 := by
  simp only [effect]
  split <;> rfl

theorem after_write : (s.effect (.write answer)).after = (s.write answer).2.1 := by
  simp only [effect]
  split <;> rfl

theorem handed_write : (s.effect (.write answer)).handed = (s.write answer).1 := by
  simp only [effect]
  split <;> rfl

end Operations

/-- All that can happen.  A turn that is not listed here leaves the stream alone. -/
inductive Acts (s : Stream) : Op → Effect → Prop where
  | rests (op : Op) (other : op ≠ .close) : Acts s op { after := s }
  | sends (bytes : Octets) (opened : s.queue.closed = false) :
      Acts s (.send bytes)
        { after := { s with queue := (s.queue.push bytes).2 }
          uses := [.push bytes]
          departures := (s.queue.items.take (s.queue.push bytes).1).map .dropped
          delivered := [(bytes, ⟨s.peer, (s.queue.push bytes).1⟩)] }
  /-- The writer goes on waiting, or stops. -/
  | waits (writer : Writer) (waiting : s.writer = .waiting)
      (silent : ∀ packet, (s.queue.poll writerName).1 ≠ .ready (some packet))
      (still : writer.isWriting = false) :
      Acts s .fetch
        { after := { s with queue := (s.queue.poll writerName).2, writer }
          uses := [.poll writerName] }
  | takes (packet : Octets) (waiting : s.writer = .waiting)
      (said : (s.queue.poll writerName).1 = .ready (some packet)) :
      Acts s .fetch
        { after := { s with queue := (s.queue.poll writerName).2, writer := Writer.after packet }
          uses := [.poll writerName]
          departures := [.returned writerName packet] }
  | writes (rest : Octets) (count : Nat) (some_ : 0 < count)
      (writing : s.writer = .writing rest) :
      Acts s (.write (.accepted count))
        { after := { s with writer := Writer.after (rest.drop count) }
          handed := rest.take count }
  | breaks (answer : WriteAnswer) (rest : Octets) (failing : answer.fails = true)
      (writing : s.writer = .writing rest) :
      Acts s (.write answer)
        { after := { s with queue := s.queue.close, writer := .stopped }
          uses := [.close]
          fails := true }
  | closes : Acts s .close { after := s.close, uses := [.close] }

section Departed

variable (q : SendQueue)

theorem departed_push (packet : Octets) :
    departed (SendQueue.turns q [.push packet]) =
      (q.items.take (q.push packet).1).map .dropped := by
  simp [departed, SendQueue.turns, SendQueue.Turn.departures, SendQueue.Turn.answer,
    SendQueue.step]

theorem departed_poll_ready {packet : Octets}
    (said : (q.poll writerName).1 = .ready (some packet)) :
    departed (SendQueue.turns q [.poll writerName]) = [.returned writerName packet] := by
  simp [departed, SendQueue.turns, SendQueue.Turn.departures, SendQueue.Turn.answer,
    SendQueue.step, said]

theorem departed_poll_silent
    (silent : ∀ packet, (q.poll writerName).1 ≠ .ready (some packet)) :
    departed (SendQueue.turns q [.poll writerName]) = [] := by
  rcases said : (q.poll writerName).1 with _ | (_ | packet)
  · simp [departed, SendQueue.turns, SendQueue.Turn.departures, SendQueue.Turn.answer,
      SendQueue.step, said]
  · simp [departed, SendQueue.turns, SendQueue.Turn.departures, SendQueue.Turn.answer,
      SendQueue.step, said]
  · exact absurd said (silent packet)

end Departed

theorem acts_fetch (s : Stream) : Acts s .fetch (s.effect .fetch) := by
  by_cases waiting : s.writer = .waiting
  · have told : s.effect .fetch = .using s s.fetch.1 (.poll writerName) := if_pos waiting
    rw [told]
    rcases polled : s.queue.poll writerName with ⟨_ | (_ | packet), q⟩
    · have silent : ∀ packet, (s.queue.poll writerName).1 ≠ .ready (some packet) := by
        simp [polled]
      have acted := Acts.waits .waiting waiting silent rfl
      simpa [Effect.using, fetch, waiting, polled, departed_poll_silent _ silent] using acted
    · have silent : ∀ packet, (s.queue.poll writerName).1 ≠ .ready (some packet) := by
        simp [polled]
      have acted := Acts.waits .stopped waiting silent rfl
      simpa [Effect.using, fetch, waiting, polled, departed_poll_silent _ silent] using acted
    · have said : (s.queue.poll writerName).1 = .ready (some packet) := by simp [polled]
      have acted := Acts.takes packet waiting said
      simpa [Effect.using, fetch, waiting, polled, departed_poll_ready _ said] using acted
  · have told : s.effect .fetch = { after := s.fetch.1 } := if_neg waiting
    have same : s.fetch = (s, []) := by
      unfold fetch
      split
      · exact absurd ‹_› waiting
      · rfl
    rw [told, same]
    exact .rests _ (by simp)

theorem acts_write (s : Stream) (answer : WriteAnswer) :
    Acts s (.write answer) (s.effect (.write answer)) := by
  unfold effect write
  cases writing : s.writer with
  | writing rest =>
      rcases answer with (_ | count) | _ | fault
      · exact .breaks _ rest rfl writing
      · exact .writes rest (count + 1) (Nat.succ_pos count) writing
      · exact .rests _ (by simp)
      · exact .breaks _ rest rfl writing
  | _ => exact .rests _ (by simp)

theorem acts (s : Stream) (op : Op) : Acts s op (s.effect op) := by
  cases op with
  | send bytes =>
      cases closed : s.queue.closed with
      | true =>
          have refused : s.effect (.send bytes) = { after := s } := by simp [effect, send, closed]
          rw [refused]
          exact .rests _ (by simp)
      | false =>
          have accepted := Acts.sends bytes closed
          simpa [effect, Effect.using, send, closed, departed_push] using accepted
  | fetch => exact acts_fetch s
  | write answer => exact acts_write s answer
  | close => exact .closes

/-- Something that happens, with the stream before it. -/
structure Turn where
  before : Stream
  op : Op

namespace Turn

variable (turn : Turn)

def effect : Effect :=
  turn.before.effect turn.op

/-- Whether nothing can be sent any more: the stream is closed or a write fails. -/
def Ends : Prop :=
  turn.op = .close ∨ turn.effect.fails = true

end Turn

/-- The turns of a stream through which a list of things happens. -/
def turns (s : Stream) : List Op → List Turn
  | [] => []
  | op :: ops => ⟨s, op⟩ :: turns (s.effect op).after ops

/-- The stream after that. -/
def run (s : Stream) : List Op → Stream
  | [] => s
  | op :: ops => run (s.effect op).after ops

section Histories

variable (history : List Turn)

/-- The packets that were sent without an error, in order. -/
def sent : List Octets :=
  history.flatMap fun turn => turn.effect.delivered.map Prod.fst

/-- What the sends of these were answered. -/
def deliveries : List Delivery :=
  history.flatMap fun turn => turn.effect.delivered.map Prod.snd

/-- All octets that the host has taken, in order. -/
def handed : Octets :=
  history.flatMap fun turn => turn.effect.handed

def uses : List SendQueue.Op :=
  history.flatMap fun turn => turn.effect.uses

def departures : List Departure :=
  history.flatMap fun turn => turn.effect.departures

/-- The packets that the writer has taken, in order. -/
def taken : List Octets :=
  (departures history).filterMap Departure.returned?

/-- The packets that were displaced by later ones. -/
def dropped : List Octets :=
  (departures history).filterMap Departure.dropped?

/-- Whether a write has failed. -/
def failed : Bool :=
  history.any fun turn => turn.effect.fails

end Histories

theorem turns_append (s : Stream) (first last : List Op) :
    turns s (first ++ last) = turns s first ++ turns (s.run first) last := by
  induction first generalizing s with
  | nil => rfl
  | cons op first ih => simp [turns, ih, run]

theorem run_append (s : Stream) (first last : List Op) :
    s.run (first ++ last) = (s.run first).run last := by
  induction first generalizing s with
  | nil => rfl
  | cons op first ih => exact ih _

/-! ## The queue of a stream -/

namespace Acts

variable {s : Stream} {op : Op} {e : Effect}

/-- The queue after a turn is what the turn uses it for. -/
theorem queue (acts : Acts s op e) : e.after.queue = s.queue.run e.uses := by
  cases acts <;> rfl

/-- What is sent is what is pushed. -/
theorem pushed (acts : Acts s op e) : e.delivered.map Prod.fst = pushed e.uses := by
  cases acts <;> rfl

theorem capacity (acts : Acts s op e) : e.after.queue.capacity = s.queue.capacity := by
  cases acts <;> simp [Stream.close]

/-- A send answers how many packets it displaces. -/
theorem displaced (acts : Acts s op e) (room : 0 < s.queue.capacity) :
    (e.departures.filterMap Departure.dropped?).length =
      ((e.delivered.map Prod.snd).map Delivery.dropped).sum := by
  cases acts with
  | sends bytes opened =>
      have all_dropped : ((s.queue.items.take (s.queue.push bytes).1).map
          Departure.dropped).filterMap Departure.dropped? =
            s.queue.items.take (s.queue.push bytes).1 := by
        rw [List.filterMap_map]
        exact List.filterMap_some
      have there : (s.queue.push bytes).1 ≤ s.queue.items.length := by
        rw [SendQueue.push_dropped]
        omega
      rw [all_dropped]
      simp [there]
  | _ => rfl

/-- Only an end closes the queue. -/
theorem closed_iff (acts : Acts s op e) :
    e.after.queue.closed = true ↔ s.queue.closed = true ∨ op = .close ∨ e.fails = true := by
  cases acts with
  | rests op other => simp [other]
  | _ => simp [Stream.close]

end Acts

/-- What leaves the queue is told by the history of the queue. -/
theorem departures_effect (s : Stream) (op : Op) :
    (s.effect op).departures = departed (SendQueue.turns s.queue (s.effect op).uses) := by
  cases op with
  | send bytes =>
      simp only [effect]
      split <;> rfl
  | fetch =>
      simp only [effect]
      split <;> rfl
  | write answer =>
      simp only [effect]
      split <;> rfl
  | close => rfl

theorem run_queue (s : Stream) (ops : List Op) :
    (s.run ops).queue = s.queue.run (uses (turns s ops)) := by
  induction ops generalizing s with
  | nil => rfl
  | cons op ops ih =>
      rw [run, ih, (s.acts op).queue]
      exact (SendQueue.run_append _ _ _).symm

theorem sent_turns (s : Stream) (ops : List Op) :
    sent (turns s ops) = pushed (uses (turns s ops)) := by
  induction ops generalizing s with
  | nil => rfl
  | cons op ops ih =>
      let e := s.effect op
      calc sent (turns s (op :: ops))
          = e.delivered.map Prod.fst ++ sent (turns e.after ops) := rfl
        _ = pushed e.uses ++ pushed (uses (turns e.after ops)) := by
            rw [(s.acts op).pushed, ih]
        _ = pushed (uses (turns s (op :: ops))) := List.filterMap_append.symm

theorem departures_turns (s : Stream) (ops : List Op) :
    departures (turns s ops) = departed (SendQueue.turns s.queue (uses (turns s ops))) := by
  induction ops generalizing s with
  | nil => rfl
  | cons op ops ih =>
      let e := s.effect op
      calc departures (turns s (op :: ops))
          = e.departures ++ departures (turns e.after ops) := rfl
        _ = departed (SendQueue.turns s.queue e.uses) ++
              departed (SendQueue.turns (s.queue.run e.uses) (uses (turns e.after ops))) := by
            rw [s.departures_effect, ih, (s.acts op).queue]
        _ = departed (SendQueue.turns s.queue (e.uses ++ uses (turns e.after ops))) := by
            rw [SendQueue.turns_append]
            exact List.flatMap_append.symm

/-! ## The wire -/

/-- How the octets handed to the host relate to the packets that the writer took. -/
inductive Wired (taken : List Octets) (wire : Octets) : Writer → Bool → Prop where
  /-- All of them are there, whole and in order. -/
  | whole {writer : Writer} (still : writer.isWriting = false) (octets : wire = taken.flatten) :
      Wired taken wire writer false
  /-- The last one is being written; what is left of it is what the writer is at. -/
  | partway (front : List Octets) (part rest : Octets) (left : rest ≠ [])
      (packets : taken = front ++ [part ++ rest]) (octets : wire = front.flatten ++ part) :
      Wired taken wire (.writing rest) false
  /-- A write of the last one has failed. -/
  | cut (front : List Octets) (part rest : Octets) (left : rest ≠ [])
      (packets : taken = front ++ [part ++ rest]) (octets : wire = front.flatten ++ part) :
      Wired taken wire .stopped true

namespace Wired

variable {packets : List Octets} {wire : Octets} {writer : Writer} {broken : Bool}

/-- The writer goes on with what is left of the last packet, if anything. -/
theorem after (front : List Octets) (part rest : Octets)
    (taken : packets = front ++ [part ++ rest]) (octets : wire = front.flatten ++ part) :
    Wired packets wire (Writer.after rest) false := by
  cases rest with
  | nil => exact .whole rfl (by simp [taken, octets])
  | cons first rest => exact .partway front part (first :: rest) (by simp) taken octets

/-- What one turn does to the wire. -/
theorem step {s : Stream} {op : Op} {e : Effect} (wired : Wired packets wire s.writer broken)
    (acts : Acts s op e) :
    Wired (packets ++ e.departures.filterMap Departure.returned?) (wire ++ e.handed)
      e.after.writer (broken || e.fails) := by
  cases acts with
  | rests op other => simpa using wired
  | sends bytes opened =>
      have none_taken : ((s.queue.items.take (s.queue.push bytes).1).map
          Departure.dropped).filterMap Departure.returned? = [] := by
        rw [List.filterMap_map]
        exact List.filterMap_eq_nil_iff.2 fun _ _ => rfl
      rw [none_taken]
      simpa using wired
  | waits writer waiting silent still =>
      rw [waiting] at wired
      cases wired with
      | whole _ octets => exact .whole still (by simpa using octets)
  | takes packet waiting said =>
      rw [waiting] at wired
      cases wired with
      | whole _ octets => exact .after packets [] packet rfl (by simpa using octets)
  | writes rest count some_ writing =>
      rw [writing] at wired
      cases wired with
      | whole still octets => cases still
      | partway front part rest left packets octets =>
          exact .after front (part ++ rest.take count) _ (by simpa using packets) (by simp [octets])
  | breaks answer rest failing writing =>
      rw [writing] at wired
      cases wired with
      | whole still octets => cases still
      | partway front part rest left packets octets =>
          exact .cut front part rest left (by simpa using packets) (by simpa using octets)
  | closes => simpa [close] using wired

/-- What a history does to the wire. -/
theorem turns {s : Stream} (wired : Wired packets wire s.writer broken) (ops : List Op) :
    let history := s.turns ops
    Wired (packets ++ taken history) (wire ++ handed history) (s.run ops).writer
      (broken || failed history) := by
  induction ops generalizing s packets wire broken with
  | nil => simpa [Stream.turns, taken, departures, handed, failed, run] using wired
  | cons op ops ih =>
      have next := ih (wired.step (s.acts op))
      simpa [Stream.turns, taken, departures, handed, failed, run, Turn.effect, Bool.or_assoc]
        using next

end Wired

theorem wired_start (peer : Address) (capacity : Nat) (ops : List Op) :
    let s := start peer capacity
    Wired (taken (s.turns ops)) (handed (s.turns ops)) (s.run ops).writer
      (failed (s.turns ops)) := by
  have fresh : Wired [] [] (start peer capacity).writer false := .whole rfl rfl
  simpa using fresh.turns ops

/-! ## Nothing is lost on the way -/

section Balance

variable (peer : Address) (capacity : Nat) (ops : List Op)

/-- A queue is closed from the first end on. -/
theorem run_closed_iff (s : Stream) :
    (s.run ops).queue.closed = true ↔
      s.queue.closed = true ∨ ∃ turn ∈ turns s ops, turn.Ends := by
  induction ops generalizing s with
  | nil => simp [run, turns]
  | cons op ops ih =>
      simp only [run, turns, List.mem_cons, exists_eq_or_imp, ih, (s.acts op).closed_iff, or_assoc,
        Turn.Ends, Turn.effect]

/-- Until there is an end, what was sent has left the queue or is in it, each packet once
and in order. -/
theorem conserved (going : ∀ turn ∈ turns (start peer capacity) ops, ¬ turn.Ends) :
    sent (turns (start peer capacity) ops) =
      (departures (turns (start peer capacity) ops)).map Departure.packet ++
        ((start peer capacity).run ops).queue.items := by
  have opened : ((start peer capacity).run ops).queue.closed = false := by
    refine Bool.eq_false_iff.2 fun closed => ?_
    rcases (run_closed_iff ops _).1 closed with never | ⟨turn, member, ends⟩
    · cases never
    · exact going turn member ends
  rw [run_queue] at opened ⊢
  rw [sent_turns, departures_turns]
  exact SendQueue.items_append_pushed opened

/-- The writer takes packets in the order in which they were sent. -/
theorem taken_sublist :
    (taken (turns (start peer capacity) ops)).Sublist
      (sent (turns (start peer capacity) ops)) := by
  rw [taken, sent_turns, departures_turns]
  exact SendQueue.returned_sublist capacity _

/-- A packet that has left the queue was taken or displaced. -/
theorem length_departures (gone : List Departure) :
    gone.length =
      (gone.filterMap Departure.returned?).length + (gone.filterMap Departure.dropped?).length := by
  induction gone with
  | nil => rfl
  | cons departure gone ih =>
      cases departure <;>
        simp only [List.filterMap_cons, Departure.returned?, Departure.dropped?,
          List.length_cons] <;> omega

/-- The sends answer, all in all, how many packets were displaced. -/
theorem length_dropped (s : Stream) (room : 0 < s.queue.capacity) :
    (dropped (turns s ops)).length = ((deliveries (turns s ops)).map Delivery.dropped).sum := by
  induction ops generalizing s with
  | nil => rfl
  | cons op ops ih =>
      have first := (s.acts op).displaced room
      have later := ih (s.effect op).after ((s.acts op).capacity ▸ room)
      simp only [dropped, departures, deliveries, turns, List.flatMap_cons, List.filterMap_append,
        List.length_append, List.map_append, List.sum_append] at later ⊢
      rw [later]
      exact congrArg (· + _) first

theorem length_pending : ((start peer capacity).run ops).queue.items.length ≤ max capacity 1 := by
  rw [run_queue]
  exact ((SendQueue.bounded_start capacity).run (by omega) _).length_le

end Balance

/-! ## After a write that failed -/

/-- A stream whose queue is closed and whose writer has stopped. -/
structure Broken (s : Stream) : Prop where
  closed : s.queue.closed = true
  stopped : s.writer = .stopped

namespace Broken

variable {s : Stream} {op : Op} {e : Effect}

theorem of_fails (acts : Acts s op e) (fails : e.fails = true) : Broken e.after := by
  cases acts with
  | breaks answer rest failing writing => exact ⟨SendQueue.close_closed _, rfl⟩
  | _ => cases fails

/-- A broken stream takes no packet, hands nothing over and stays broken. -/
theorem step (broken : Broken s) (acts : Acts s op e) :
    Broken e.after ∧ e.handed = [] ∧ e.delivered = [] := by
  obtain ⟨closed, stopped⟩ := broken
  cases acts with
  | rests op other => exact ⟨⟨closed, stopped⟩, rfl, rfl⟩
  | sends bytes opened => exact absurd closed (by simp [opened])
  | waits writer waiting silent still => exact absurd waiting (by simp [stopped])
  | takes packet waiting said => exact absurd waiting (by simp [stopped])
  | writes rest count some_ writing => exact absurd writing (by simp [stopped])
  | breaks answer rest failing writing => exact absurd writing (by simp [stopped])
  | closes => exact ⟨⟨SendQueue.close_closed _, stopped⟩, rfl, rfl⟩

theorem turns (broken : Broken s) (ops : List Op) :
    Broken (s.run ops) ∧ handed (s.turns ops) = [] ∧ sent (s.turns ops) = [] := by
  induction ops generalizing s with
  | nil => exact ⟨broken, rfl, rfl⟩
  | cons op ops ih =>
      obtain ⟨next, unwritten, unsent⟩ := broken.step (s.acts op)
      obtain ⟨last, silent, nothing⟩ := ih next
      refine ⟨last, ?_, ?_⟩
      · calc handed (s.turns (op :: ops))
            = (s.effect op).handed ++ handed ((s.effect op).after.turns ops) := rfl
          _ = [] := by rw [unwritten, silent, List.append_nil]
      · calc sent (s.turns (op :: ops))
            = (s.effect op).delivered.map Prod.fst ++ sent ((s.effect op).after.turns ops) := rfl
          _ = [] := by rw [unsent, nothing, List.map_nil, List.append_nil]

/-- A stream is broken once a write has failed. -/
theorem of_failed (s : Stream) (ops : List Op) (wrote : failed (s.turns ops) = true) :
    Broken (s.run ops) := by
  induction ops generalizing s with
  | nil => cases wrote
  | cons op ops ih =>
      rcases Bool.or_eq_true_iff.1 wrote with here | there
      · exact ((of_fails (s.acts op) here).turns ops).1
      · exact ih _ there

theorem send (broken : Broken s) (bytes : Octets) : s.send bytes = (.error .closed, s) :=
  if_pos broken.closed

end Broken

/-! ## The writer does not sleep -/

section Awake

variable (peer : Address) (capacity : Nat) (ops : List Op)

theorem Acts.polls {s : Stream} {op : Op} {e : Effect} (acts : Acts s op e) {pop : String}
    (polled : .poll pop ∈ e.uses) : pop = writerName := by
  cases acts <;> simp_all

theorem polls_turns (s : Stream) {pop : String} (polled : .poll pop ∈ uses (turns s ops)) :
    pop = writerName := by
  induction ops generalizing s with
  | nil => cases polled
  | cons op ops ih =>
      rcases List.mem_append.1 polled with here | there
      · exact (s.acts op).polls here
      · exact ih _ there

theorem alone :
    SendQueue.Alone (SendQueue.start capacity) (uses (turns (start peer capacity) ops)) :=
  SendQueue.alone_of_single _ writerName fun _ => polls_turns ops _

/-- All pops under way are the one of the writer. -/
theorem eq_writerName_of_mem_line {pop : String}
    (underWay : pop ∈ ((start peer capacity).run ops).queue.line) : pop = writerName := by
  rw [run_queue] at underWay
  have pending := (SendQueue.mem_line_iff_pending capacity _ pop).1 underWay
  exact polls_turns ops _ (SendQueue.poll_mem_of_pending pending)

/-- A writer that waits while an open queue has packets takes the first one when it looks. -/
theorem fetch_takes {s : Stream} (reached : s = (start peer capacity).run ops)
    (waiting : s.writer = .waiting) (opened : s.queue.closed = false) {packet : Octets}
    {rest : List Octets} (found : s.queue.items = packet :: rest) :
    s.fetch.1.writer = Writer.after packet ∧ s.fetch.1.queue.items = rest := by
  have attended : SendQueue.Attended s.queue := by
    rw [reached, run_queue]
    exact SendQueue.attended_run capacity _
  -- A pop of the writer that is in line would have been woken by the packet.
  have out : writerName ∉ s.queue.waiting := by
    intro inLine
    obtain ⟨other, woken⟩ := attended.exists_woken opened (by simp [found])
      (List.mem_append_left _ inLine)
    have same := eq_writerName_of_mem_line peer capacity ops
      (reached ▸ List.mem_append_right _ woken)
    exact attended.not_mem_woken inLine (same ▸ woken)
  have told := SendQueue.polling s.queue writerName
  unfold fetch
  rw [waiting]
  generalize s.queue.poll writerName = result at told ⊢
  cases told with
  | stays inLine => exact absurd inLine out
  | ends _ closed => exact absurd closed (by simp [opened])
  | takes _ _ there =>
      cases found.symm.trans there
      exact ⟨rfl, rfl⟩
  | waits _ _ empty => exact absurd empty (by simp [found])

/-- A writer that waits on a closed queue stops when it looks. -/
theorem fetch_stops {s : Stream} (reached : s = (start peer capacity).run ops)
    (waiting : s.writer = .waiting) (closed : s.queue.closed = true) :
    s.fetch.1.writer = .stopped := by
  have nobody : s.queue.waiting = [] := by
    rw [reached, run_queue] at closed ⊢
    exact SendQueue.dismissed_run (alone peer capacity ops) closed
  have said := SendQueue.poll_of_closed closed (show writerName ∉ s.queue.waiting by simp [nobody])
  rcases polled : s.queue.poll writerName with ⟨answer, q⟩
  rw [polled] at said
  subst said
  simp [fetch, waiting, polled]

end Awake

end Stream

end Socket

end MediaTransport
