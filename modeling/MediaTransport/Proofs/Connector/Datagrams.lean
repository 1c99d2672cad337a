/-
# MediaTransport.Proofs.Connector.Datagrams -- datagrams come whole or not at all

A pool whose buffers hold one octet more than the largest packet tells a datagram that
is too long from one that fits: the former fills its buffer.  What fits is read back as
it was sent, whatever an earlier packet has left in the buffer (`seen_eq_self`).

So a datagram is delivered whole, or dropped and counted (`datagram_handled`); either way
the connector stays as open as it was, also if the datagram is empty.
-/
import MediaTransport.Channel
import MediaTransport.Proofs.Connector.Traffic

namespace MediaTransport

set_option autoImplicit false

open Net (Address)
open Connector (example13 example13_fresh exampleAddress examplePacket)

/-- What the configuration makes of a stream is a fresh connector, and its buffers hold
one octet more than the largest packet. -/
theorem Channel.fresh_ofConfig (config : Config) (protocol : Protocol) (address : Address)
    (records : Bool) (now : Tick) :
    let c := (Channel.ofConfig config protocol address records now).connector
    c.Fresh ∧ c.pool.size = (config.interface protocol).mtu + 1 := by
  refine ⟨⟨rfl, fun f filter => ?_, rfl, ?_⟩, rfl⟩
  · cases filter
    exact ⟨rfl, rfl⟩
  · intro buffer member
    cases member

namespace Connector

variable {c : Connector} {loan : Loan} {d : Octets} {source : Address}

/-! ## What is read back -/

/-- A packet that fits is read back as it was sent. -/
theorem seen_eq_self (fits : d.length ≤ loan.window.capacity) : seen loan d d.length = d := by
  have all : stored loan d = d := List.take_of_length_le fits
  have inside : 0 + d.length ≤ loan.window.storage.size := by
    rw [Nat.zero_add]
    exact fits
  have written : (filled loan d).window.storage.toList =
      d ++ loan.window.storage.toList.drop d.length := by
    show (loan.window.storage.overwrite 0 (stored loan d)).toList = _
    rw [all, Storage.toList_overwrite inside, List.take_zero, List.nil_append, Nat.zero_add]
  rw [seen, Storage.slice_eq, written, List.drop_zero, List.take_left]

theorem reported_of_fits (fits : d.length ≤ loan.window.capacity) :
    reported loan d none = d.length := by
  simp [reported, stored, Nat.min_eq_right fits]

theorem reported_of_long (long : loan.window.capacity ≤ d.length) :
    reported loan d none = loan.window.capacity := by
  simp [reported, stored, Nat.min_eq_left long]

/-! ## The fates of a datagram -/

theorem fate_of_long (udp : c.transport = .udp) (long : loan.window.capacity ≤ d.length) :
    c.fate loan (.packet d none source) = .truncated := by
  simp [fate, udp, reported_of_long long]

/-- A datagram that does not fill its buffer is left to the filter. -/
theorem fate_of_short (udp : c.transport = .udp) (short : d.length < loan.window.capacity) :
    c.fate loan (.packet d none source) = c.screened d := by
  have fits := Nat.le_of_lt short
  simp [fate, udp, reported_of_fits fits, seen_eq_self fits, Nat.not_le.2 short]

/-- Whether the filter, if there is one, lets a packet through. -/
def Accepts (c : Connector) (now : Tick) (bytes : Octets) : Prop :=
  ∀ f, c.filter = some f → (f.accept now bytes).1 = true

theorem accepts_iff_screened (now : Tick) : c.Accepts now d ↔ c.screened d = .delivered := by
  rw [screened_eq_delivered_iff]
  refine forall_congr' fun f => imp_congr_right fun _ => ?_
  cases admitted : Packet.admits f.wanted d with
  | true => simp [Filter.accept_admitted admitted]
  | false => simp [(Filter.accept_refused now admitted).1]

end Connector

namespace Traffic

/-! ## What a receive does about a datagram -/

/-- A receive goes on to the next packet: it asks for one unless the connector has been
closed. -/
def Continues (t : Traffic) (call : Nat) : Prop :=
  t.calls[call]? = some .looking ∧
    (t.connector.closed = false →
      ∃ loan u, Step t (.resume call) ⟨[.ask], none⟩ u ∧ u.calls[call]? = some (.waiting loan))

/-- What a receive does about a datagram, where packets have at most `mtu` octets. -/
structure Handled (mtu : Nat) (t : Traffic) (call : Nat) (d : Octets) (source : Address)
    (effect : Effect) (u : Traffic) : Prop where
  /-- No datagram closes the connector, the empty one no more than others. -/
  standing : u.connector.standing = t.connector.standing
  whole : d.length ≤ mtu → t.connector.Accepts t.now d →
    ∃ packet : Received, effect.outcome = some (.received (.ok packet)) ∧
      u.held = t.held ++ [packet] ∧ packet.source = source ∧
      packet.loan.window.offset = 0 ∧ packet.loan.window.length = d.length ∧
      packet.loan.window.capacity = mtu + 1 ∧ packet.loan.window.bytes = d
  dropped : mtu < d.length ∨ ¬ t.connector.Accepts t.now d →
    effect.outcome = none ∧ u.held = t.held ∧ Connector.logged effect.actions = [] ∧
      Continues u call
  truncated : mtu < d.length →
    u.connector.counts.truncatedPkts = t.connector.counts.truncatedPkts + 1

section Handled

variable {t : Traffic} {call : Nat} {loan : Loan} {d : Octets} {source : Address}

theorem continues_of_looking (found : t.calls[call]? = some .looking) : Continues t call := by
  refine ⟨found, fun opened => ?_⟩
  exact ⟨_, _, .resume found (Connector.enter_open opened), getElem?_set_of_getElem? found _⟩

theorem handled_of_long (found : t.calls[call]? = some (.waiting loan))
    (lent : loan.window.capacity = t.connector.pool.size) (udp : t.connector.transport = .udp)
    {mtu : Nat} (size : t.connector.pool.size = mtu + 1) (long : mtu < d.length) :
    ∃ effect u, Step t (.take call (.packet d none source)) effect u ∧
      Handled mtu t call d source effect u := by
  have cut : loan.window.capacity ≤ d.length := by omega
  have fate : t.connector.fate loan (.packet d none source) = .truncated :=
    Connector.fate_of_long udp cut
  have taken := Connector.take_truncated t.now lent fate
  have standing := t.connector.dropOversized_standing t.now (Connector.filled loan d) source
  have silent := t.connector.logged_dropOversized t.now (Connector.filled loan d) source
  refine ⟨_, _, .skip found taken, standing, ?_, ?_, ?_⟩
  · intro fits
    omega
  · intro _
    exact ⟨rfl, rfl, silent, continues_of_looking (getElem?_set_of_getElem? found _)⟩
  · intro _
    rfl

theorem handled_of_short (found : t.calls[call]? = some (.waiting loan))
    (lent : loan.window.capacity = t.connector.pool.size) (udp : t.connector.transport = .udp)
    {mtu : Nat} (size : t.connector.pool.size = mtu + 1) (short : d.length ≤ mtu) :
    ∃ effect u, Step t (.take call (.packet d none source)) effect u ∧
      Handled mtu t call d source effect u := by
  have inside : d.length < loan.window.capacity := by omega
  have fits := Nat.le_of_lt inside
  have fate : t.connector.fate loan (.packet d none source) = t.connector.screened d :=
    Connector.fate_of_short udp inside
  rcases t.connector.screened_cases d with delivered | rejected
  · have accepts := (Connector.accepts_iff_screened t.now).2 delivered
    obtain ⟨window, storage, offset, length, bytes, taken⟩ :=
      Connector.take_delivered t.now lent (fate.trans delivered)
    rw [Connector.reported_of_fits fits] at length bytes
    rw [Connector.seen_eq_self fits] at bytes
    have capacity : window.capacity = mtu + 1 :=
      (congrArg Storage.size storage).trans
        ((Connector.filled_capacity loan d).trans (lent.trans size))
    refine ⟨_, _, .deliver found taken, rfl, ?_, ?_, ?_⟩
    · intro _ _
      exact ⟨_, rfl, rfl, rfl, offset, length, capacity, bytes⟩
    · rintro (long | refused)
      · omega
      · exact absurd accepts refused
    · intro long
      omega
  · have refuses : ¬ t.connector.Accepts t.now d := fun accepts => by
      rw [Connector.accepts_iff_screened, rejected] at accepts
      cases accepts
    obtain ⟨window, f, -, -, -, -, taken⟩ :=
      Connector.take_rejected t.now lent (fate.trans rejected)
    refine ⟨_, _, .skip found taken, t.connector.recycle_standing _, ?_, ?_, ?_⟩
    · intro _ accepts
      exact absurd accepts refuses
    · intro _
      refine ⟨rfl, rfl, ?_, continues_of_looking (getElem?_set_of_getElem? found _)⟩
      simp [Connector.logged, Connector.Action.record?]
    · intro long
      omega

end Handled

/-- **On a connector for datagrams of at most `mtu` octets, whatever has happened on it
before, a receive takes the next datagram whole or not at all.** -/
theorem datagram_handled {c : Connector} {now : Tick} {turns : List Turn} {t : Traffic}
    {mtu : Nat} (udp : c.transport = .udp) (size : c.pool.size = mtu + 1)
    (uniform : c.pool.Uniform) (ran : Run (start c now) turns t) {call : Nat} {loan : Loan}
    (found : t.calls[call]? = some (.waiting loan)) (d : Octets) (source : Address) :
    (∃ effect u, Step t (.take call (.packet d none source)) effect u) ∧
      ∀ effect u, Step t (.take call (.packet d none source)) effect u →
        Handled mtu t call d source effect u := by
  obtain ⟨⟨line, sound⟩, -⟩ := ran.keeps uniform
  have lent := (sound.lent_of_waiting found).capacity
  have udp_here : t.connector.transport = .udp :=
    (congrArg Connector.Line.transport line).trans udp
  have size_here : t.connector.pool.size = mtu + 1 :=
    (congrArg Connector.Line.poolSize line).trans size
  have handled : ∃ effect u, Step t (.take call (.packet d none source)) effect u ∧
      Handled mtu t call d source effect u := by
    rcases Nat.lt_or_ge mtu d.length with long | short
    · exact handled_of_long found lent udp_here size_here long
    · exact handled_of_short found lent udp_here size_here short
  obtain ⟨effect, u, step, all⟩ := handled
  refine ⟨⟨effect, u, step⟩, fun other v second => ?_⟩
  obtain ⟨rfl, rfl⟩ := step.deterministic second
  exact all

/-- A media packet into a buffer that is full of what a longer datagram has left. -/
theorem handled_in_stale_buffer :
    ∃ turns t loan, example13.transport = .udp ∧ example13.pool.size = 13 + 1 ∧
      example13.pool.Uniform ∧ Run (start example13 0) turns t ∧
      t.calls[0]? = some (.waiting loan) ∧ loan.window.bytes = List.replicate 14 255 ∧
      (∃ effect u,
        Step t (.take 0 (.packet examplePacket none exampleAddress)) effect u) ∧
      ∀ effect u, Step t (.take 0 (.packet examplePacket none exampleAddress)) effect u →
        Handled 13 t 0 examplePacket exampleAddress effect u := by
  have ran :=
    Run.turn ⟨start example13 0, .receive, _, _, .receive rfl⟩ <|
    .turn ⟨_, .take 0 (.packet (List.replicate 20 255) none exampleAddress), _, _,
      .skip rfl rfl⟩ <|
    .turn ⟨_, .resume 0, _, _, .resume rfl rfl⟩ <|
    .stop _
  exact ⟨_, _, _, rfl, rfl, example13_fresh.uniform, ran, rfl, rfl,
    datagram_handled rfl rfl example13_fresh.uniform ran rfl examplePacket exampleAddress⟩

end Traffic

end MediaTransport
