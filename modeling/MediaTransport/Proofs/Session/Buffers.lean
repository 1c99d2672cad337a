/-
# MediaTransport.Proofs.Session.Buffers -- no buffer is lost

On an open connector that starts with an empty pool, every buffer is in the pool, in a receive
or in the hands of a caller, whatever receives, sends and callers do (`Traffic.Accounts`).

The loops of a session give each packet back before they receive the next one.  One buffer is
all that they ever use: between two arrivals the pool is empty and the buffer of the receive
under way holds what all packets so far have left in it, one over the other (`layered`).  A
second buffer would have begun with zeros.
-/
import MediaTransport.Proofs.Connector.Buffers
import MediaTransport.Proofs.Session.Feeding

namespace MediaTransport

set_option autoImplicit false

open Connector (example13 exampleAddress examplePacket)

/-- An open connector whose pool is empty. -/
structure Connector.Blank (c : Connector) : Prop where
  opened : c.standing = ⟨false, false, false⟩
  empty : c.pool.idle = []

namespace Session

/-- What is in a buffer after an arrival was stored in it. -/
def layer (storage : Storage) : Arrival → Storage
  | .packet bytes _ _ => storage.overwrite 0 (bytes.take storage.size)
  | .failed _ => storage

/-- What is in a new buffer after some arrivals, each stored over those before it. -/
def layered (size : Nat) (arrivals : List Arrival) : Storage :=
  arrivals.foldl layer (Storage.zeros size)

namespace Loop

variable {σ : Type}

/-- A loop that waits with the only buffer that there is. -/
def Single (l : Loop σ) (id : PoolId) (storage : Storage) : Prop :=
  ∃ c, l.Waits c ⟨id, Window.full storage⟩ ∧ c.pool.idle = [] ∧ 0 < c.pool.capacity

/-- A pool without other buffers lends the one that it was given back. -/
theorem acquire_of_recycle {p : Pool} {given : Loan} (empty : p.idle = [])
    (opened : p.closed = false) (room : 0 < p.capacity) (lent : p.Lent given) :
    (p.recycle given).acquire = (⟨p.id, Window.full given.window.storage⟩, p) := by
  have space : ¬ (p.closed = true ∨ p.capacity ≤ p.idle.length) := by
    rw [opened, empty]
    simp only [Bool.false_eq_true, List.length_nil, false_or]
    omega
  rw [Pool.recycle_lent lent, if_neg space, empty, Pool.acquire_of_cons rfl, ← empty]

section Single

variable {handler : Handler σ} {l : Loop σ} {id : PoolId} {storage : Storage} {now : Tick}
  {arrival : Arrival}

/-- The buffer that is lent next is the one that the arrival was stored in. -/
theorem Single.feed (single : l.Single id storage)
    (running : (l.feed handler now arrival).1.outcome = none) :
    (l.feed handler now arrival).1.Single id (layer storage arrival) := by
  obtain ⟨c, waits, empty, room⟩ := single
  have opened : c.pool.closed = false := congrArg Connector.Standing.poolClosed waits.opened
  have id_eq : id = c.pool.id := waits.lent.owner
  have stored : ∀ given, Connector.Carries ⟨id, Window.full storage⟩ arrival given →
      given.window.storage = layer storage arrival := by
    rintro given ⟨bytes, claimed, source, rfl, -, same⟩
    exact same
  -- Skipped or delivered, the buffer comes back with the arrival in it, to a pool that has no
  -- other.
  rcases taken : c.take now ⟨id, Window.full storage⟩ arrival with ⟨progress, d, actions⟩
  cases progress with
  | «continue» =>
      obtain ⟨given, carries, pool⟩ := Connector.pool_of_skip waits.capacity taken
      have again := acquire_of_recycle empty opened room (carries.lent waits.lent)
      obtain ⟨next, fed, -, waits_next⟩ := feed_of_skip handler waits taken
      rw [pool, again, stored given carries, ← id_eq] at waits_next
      rw [fed]
      exact ⟨_, waits_next, empty, room⟩
  | done result =>
      cases result with
      | error e =>
          have ended := feed_of_error handler waits taken
          rw [running] at ended
          cases ended
      | ok packet =>
          obtain ⟨carries, pool⟩ := Connector.pool_of_deliver waits.capacity taken
          have again := acquire_of_recycle empty opened room (carries.lent waits.lent)
          have returned : (d.recycle packet.loan).pool = c.pool.recycle packet.loan := by
            show d.pool.recycle packet.loan = _
            rw [pool]
          obtain ⟨next, fed, -, waits_next⟩ := feed_of_deliver handler waits taken
          rw [returned, again, stored _ carries, ← id_eq] at waits_next
          rw [fed]
          exact ⟨_, waits_next, empty, room⟩

theorem Single.run (history : List (Tick × Arrival)) {l : Loop σ} {storage : Storage}
    (single : l.Single id storage) (running : (l.run handler history).1.outcome = none) :
    (l.run handler history).1.Single id ((history.map Prod.snd).foldl layer storage) := by
  induction history generalizing l storage with
  | nil => exact single
  | cons first rest ih =>
      obtain ⟨now, arrival⟩ := first
      apply ih (single.feed ?_) running
      -- A loop that had ended here would have ended in the end.
      by_contra ended
      have stopped := Option.isSome_iff_ne_none.2 ended
      have stays : ((l.feed handler now arrival).1.run handler rest).1.outcome = none := running
      rw [run_of_ended handler stopped] at stays
      exact ended stays

end Single

/-- A loop on an open connector with an empty pool begins with one new buffer. -/
theorem single_start (handler : Handler σ) (now : Tick) {c : Connector} (blank : c.Blank)
    (idle : c.waiting = none) (room : 0 < c.pool.capacity) (socket : Socket) (state : σ) :
    (start handler now ⟨c, socket⟩ state).1.Single c.pool.id (Storage.zeros c.pool.size) := by
  have uniform := (Pool.WellKept.of_empty blank.empty).uniform
  obtain ⟨l, begun, -, waits⟩ := advance_begins handler
    (l := { channel := ⟨c, socket⟩, state }) rfl rfl idle blank.opened uniform now
  rw [Pool.acquire_of_nil blank.empty] at waits
  unfold start
  rw [begun]
  exact ⟨_, waits, blank.empty, room⟩

end Loop

/-- **However receives, sends and callers take turns on an open connector that starts with an
empty pool, no buffer is lost but by those who throw it away; and a loop uses one buffer for
all of its packets.** -/
theorem no_buffer_lost {c : Connector} (blank : c.Blank) :
    (∀ now turns t, Traffic.Run (.start c now) turns t → t.connector.closed = false →
      (∀ turn ∈ turns, turn.Honest) → Traffic.Accounts c turns t) ∧
    (1 ≤ c.pool.capacity → c.waiting = none → ∀ (σ : Type) (handler : Handler σ) (now : Tick)
      (socket : Socket) (state : σ) (history : List (Tick × Arrival)),
      let begun := (Loop.start handler now ⟨c, socket⟩ state).1
      let l := (begun.run handler history).1
      l.outcome = none →
        l.channel.connector.pool.idle = [] ∧
          l.channel.connector.waiting =
            some ⟨c.pool.id, Window.full (layered c.pool.size (history.map Prod.snd))⟩) := by
  constructor
  · intro now turns t ran serving honest
    exact ran.accounts blank.opened blank.empty serving honest
  · intro room idle σ handler now socket state history begun l running
    obtain ⟨d, waits, empty, -⟩ :=
      (Loop.single_start handler now blank idle room socket state).run history running
    rw [waits.connector]
    exact ⟨empty, rfl⟩

/-- A datagram that is too long for the example. -/
def exampleLong : Arrival :=
  .packet (List.replicate 20 255) none exampleAddress

/-- Noise, a datagram that is too long and two media packets, of which the first is given back
while the receive of the second waits.  Two buffers are made; a loop makes one. -/
theorem no_buffer_lost_of_two_packets :
    example13.Blank ∧
      (∃ turns t, Traffic.Run (.start example13 0) turns t ∧ turns.map Traffic.Turn.op =
          [.receive, .take 0 (.packet [1, 2] none exampleAddress), .resume 0,
            .take 0 exampleLong, .resume 0, .take 0 (.packet examplePacket none exampleAddress),
            .receive, .recycle 0, .take 1 (.packet examplePacket none exampleAddress)] ∧
        t.connector.closed = false ∧ (∀ turn ∈ turns, turn.Honest) ∧
        Traffic.Accounts example13 turns t ∧ t.total = 2 ∧ ∀ turn ∈ turns,
          turn.before.total ≤ turn.after.total ∧ turn.after.total ≤ 1 + 1) ∧
      let begun := (Loop.start (fun n _ _ => (n + 1, [])) 0 ⟨example13, .datagram ⟨none, true⟩⟩ 0).1
      let l := (begun.run (fun n _ _ => (n + 1, []))
        [(0, .packet [1, 2] none exampleAddress), (1, exampleLong),
          (2, .packet examplePacket none exampleAddress)]).1
      l.state = 1 ∧ l.outcome = none ∧ l.channel.connector.pool.idle = [] ∧
        l.channel.connector.waiting =
          some ⟨0, Window.full (.ofList (examplePacket ++ [255, 255]))⟩ := by
  have blank : example13.Blank := ⟨rfl, rfl⟩
  obtain ⟨runs, loops⟩ := no_buffer_lost blank
  have ran :=
    Traffic.Run.turn ⟨.start example13 0, .receive, _, _, .receive rfl⟩ <|
    .turn ⟨_, .take 0 (.packet [1, 2] none exampleAddress), _, _, .skip rfl rfl⟩ <|
    .turn ⟨_, .resume 0, _, _, .resume rfl rfl⟩ <|
    .turn ⟨_, .take 0 exampleLong, _, _, .skip rfl rfl⟩ <|
    .turn ⟨_, .resume 0, _, _, .resume rfl rfl⟩ <|
    .turn ⟨_, .take 0 (.packet examplePacket none exampleAddress), _, _, .deliver rfl rfl⟩ <|
    .turn ⟨_, .receive, _, _, .receive rfl⟩ <|
    .turn ⟨_, .recycle 0, _, _, .recycle rfl⟩ <|
    .turn ⟨_, .take 1 (.packet examplePacket none exampleAddress), _, _, .deliver rfl rfl⟩ <|
    .stop _
  obtain ⟨turns, t, ran, ops, serving, total, sparing⟩ : ∃ turns t,
      Traffic.Run (.start example13 0) turns t ∧ turns.map Traffic.Turn.op = _ ∧
        t.connector.closed = false ∧ t.total = 2 ∧
        turns.all (fun turn => !turn.wastes && decide (turn.after.held.length ≤ 1) &&
          decide (turn.after.calls.countP Call.receives ≤ 1)) = true :=
    ⟨_, _, ran, rfl, rfl, rfl, rfl⟩
  have honest := Traffic.Turn.honest_of_unclaimed ops (by simp [exampleLong])
  have accounts := runs 0 turns t ran serving honest
  have frugal : ∀ turn ∈ turns, turn.wastes = false ∧ turn.after.held.length ≤ 1 ∧
      turn.after.calls.countP Call.receives ≤ 1 := by
    intro turn member
    simpa [and_assoc] using List.all_eq_true.1 sparing turn member
  refine ⟨blank, ⟨turns, t, ran, ops, serving, honest, accounts, total,
    (accounts.totals 1 1 (by decide) frugal).2⟩, rfl, rfl, ?_⟩
  exact loops (by decide) rfl Nat (fun n _ _ => (n + 1, [])) 0 (.datagram ⟨none, true⟩) 0 _ rfl

end Session

end MediaTransport
