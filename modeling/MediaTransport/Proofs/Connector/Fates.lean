/-
# MediaTransport.Proofs.Connector.Fates -- what becomes of what a socket hands over

What a socket hands over to a receive meets one of four fates.  Its fate is told from
the stream, the buffer and the filter, without running the receive: a datagram that
fills its buffer is truncated, a failure or the end of a stream ends the receive, and
the filter decides about the rest.  A socket that reports more than it was given room
for ends the receive too, though not the connector (`take_ended`).

Each fate has one law that says all the receive does about it.  `Taken` brings them
together, so what holds of every receive is shown by one case for each.
-/
import MediaTransport.Proofs.Connector.Laws

namespace MediaTransport.Connector

set_option autoImplicit false

open Net (Address Fault)

/-- What becomes of what a socket hands over. -/
inductive Fate where
  /-- The packet is returned by the receive. -/
  | delivered
  /-- The filter drops the packet. -/
  | rejected
  /-- The datagram is dropped, since it fills its buffer. -/
  | truncated
  /-- The receive ends in an error. -/
  | ended
  deriving DecidableEq

/-- The octets that a receive finds in its buffer, within the size that the socket
reports. -/
def seen (loan : Loan) (bytes : Octets) (size : Nat) : Octets :=
  (filled loan bytes).window.storage.slice 0 size

/-- What the filter makes of a packet. -/
def screened (c : Connector) (bytes : Octets) : Fate :=
  if c.filter.all fun f => Packet.admits f.wanted bytes then .delivered else .rejected

def fate (c : Connector) (loan : Loan) : Arrival → Fate
  | .failed _ => .ended
  | .packet bytes claimed _ =>
    let size := reported loan bytes claimed
    match c.transport with
    | .udp =>
      if loan.window.capacity ≤ size then .truncated else c.screened (seen loan bytes size)
    | .tcp =>
      if size = 0 ∨ loan.window.capacity < size then .ended
      else c.screened (seen loan bytes size)

/-- Whether an answer of a receive goes with a fate. -/
def Progress.Tells : Progress → Fate → Prop
  | .continue, fate => fate = .rejected ∨ fate = .truncated
  | .done (.ok _), fate => fate = .delivered
  | .done (.error _), fate => fate = .ended

/-- Whether a socket keeps to the room that it was given. -/
def Honest (loan : Loan) : Arrival → Prop
  | .packet _ (some size) _ => size ≤ loan.window.capacity
  | _ => True

theorem Honest.reported_le {loan : Loan} {bytes : Octets} {claimed : Option Nat}
    {source : Address} (honest : Honest loan (.packet bytes claimed source)) :
    reported loan bytes claimed ≤ loan.window.capacity := by
  cases claimed with
  | none => exact List.length_take_le _ _
  | some size => exact honest

section Fates

variable {c : Connector} {loan : Loan} {bytes : Octets} {claimed : Option Nat}
  {source : Address} (now : Tick)

theorem screened_eq_delivered_iff :
    c.screened bytes = .delivered ↔
      ∀ f, c.filter = some f → Packet.admits f.wanted bytes = true := by
  unfold screened
  cases c.filter with
  | none => simp
  | some f => by_cases admitted : Packet.admits f.wanted bytes <;> simp [admitted]

theorem screened_eq_rejected_iff :
    c.screened bytes = .rejected ↔
      ∃ f, c.filter = some f ∧ Packet.admits f.wanted bytes = false := by
  unfold screened
  cases c.filter with
  | none => simp
  | some f => by_cases admitted : Packet.admits f.wanted bytes <;> simp [admitted]

theorem screened_cases (c : Connector) (bytes : Octets) :
    c.screened bytes = .delivered ∨ c.screened bytes = .rejected := by
  unfold screened
  split
  · exact .inl rfl
  · exact .inr rfl

/-- Only a datagram is truncated, and only if it fills its buffer. -/
theorem fate_truncated_iff :
    c.fate loan (.packet bytes claimed source) = .truncated ↔
      c.transport = .udp ∧ loan.window.capacity ≤ reported loan bytes claimed := by
  have screened : c.screened (seen loan bytes (reported loan bytes claimed)) ≠ .truncated := by
    rcases c.screened_cases (seen loan bytes (reported loan bytes claimed)) with h | h <;> simp [h]
  cases transport : c.transport with
  | udp =>
      by_cases full : loan.window.capacity ≤ reported loan bytes claimed <;>
        simp [fate, transport, full, screened]
  | tcp =>
      simp only [fate, transport]
      split <;> simp [screened]

/-- A packet ends a receive if it is the end of a stream, or if more of a stream is
reported than there was room for. -/
theorem fate_ended_iff :
    c.fate loan (.packet bytes claimed source) = .ended ↔
      c.transport = .tcp ∧
        (reported loan bytes claimed = 0 ∨
          loan.window.capacity < reported loan bytes claimed) := by
  have screened : c.screened (seen loan bytes (reported loan bytes claimed)) ≠ .ended := by
    rcases c.screened_cases (seen loan bytes (reported loan bytes claimed)) with h | h <;> simp [h]
  cases transport : c.transport with
  | udp =>
      simp only [fate, transport]
      split <;> simp [screened]
  | tcp =>
      by_cases outside : reported loan bytes claimed = 0 ∨
          loan.window.capacity < reported loan bytes claimed <;>
        simp [fate, transport, outside, screened]

/-- What is left to the filter is read: it is not the end of a stream, was not cut
short, and is all in the buffer. -/
theorem read_of_fate
    (left : c.fate loan (.packet bytes claimed source) = .delivered ∨
      c.fate loan (.packet bytes claimed source) = .rejected) :
    ¬ (c.transport = .tcp ∧ reported loan bytes claimed = 0) ∧
      ¬ (c.transport = .udp ∧ loan.window.capacity ≤ reported loan bytes claimed) ∧
      reported loan bytes claimed ≤ loan.window.capacity ∧
      c.fate loan (.packet bytes claimed source) =
        c.screened (seen loan bytes (reported loan bytes claimed)) := by
  unfold fate at left ⊢
  cases transport : c.transport with
  | udp =>
      simp only [transport] at left ⊢
      by_cases full : loan.window.capacity ≤ reported loan bytes claimed
      · simp [full] at left
      · simp only [full, if_false]
        exact ⟨by simp, fun cut => cut.2, by omega, trivial⟩
  | tcp =>
      simp only [transport] at left ⊢
      by_cases outside :
          reported loan bytes claimed = 0 ∨ loan.window.capacity < reported loan bytes claimed
      · simp [outside] at left
      · simp only [outside, if_false]
        exact ⟨fun drained => outside (.inl drained.2), by simp, by omega, trivial⟩

/-- A packet that is read is judged in a window over its octets. -/
theorem take_read (lent : loan.window.capacity = c.pool.size)
    (left : c.fate loan (.packet bytes claimed source) = .delivered ∨
      c.fate loan (.packet bytes claimed source) = .rejected) :
    ∃ window : Window, window.storage = (filled loan bytes).window.storage ∧
      window.offset = 0 ∧ window.length = reported loan bytes claimed ∧
      window.bytes = seen loan bytes (reported loan bytes claimed) ∧
      c.take now loan (.packet bytes claimed source) =
        c.judge now ⟨loan.owner, window⟩ source := by
  obtain ⟨notDrained, notCut, fits, -⟩ := read_of_fate left
  have inside : 0 + reported loan bytes claimed ≤ (filled loan bytes).window.storage.size := by
    rw [Nat.zero_add]
    exact fits
  let window : Window :=
    ⟨(filled loan bytes).window.storage, 0, reported loan bytes claimed, inside⟩
  have made : Window.make (filled loan bytes).window.storage 0 (reported loan bytes claimed) =
      .ok window := dif_pos inside
  refine ⟨window, rfl, rfl, rfl, rfl, ?_⟩
  rw [take_packet notDrained (lent ▸ notCut), made]
  rfl

/-! ## One law for each fate -/

theorem take_delivered (lent : loan.window.capacity = c.pool.size)
    (delivered : c.fate loan (.packet bytes claimed source) = .delivered) :
    ∃ window : Window, window.storage = (filled loan bytes).window.storage ∧
      window.offset = 0 ∧ window.length = reported loan bytes claimed ∧
      window.bytes = seen loan bytes (reported loan bytes claimed) ∧
      c.take now loan (.packet bytes claimed source) =
        (.done (.ok ⟨⟨loan.owner, window⟩, source⟩),
          { c with
            counts := c.counts.report
              [(.receivedBytes, UInt64.ofNat window.length), (.receivedPkts, 1)] },
          c.recorded source false window.bytes) := by
  obtain ⟨-, -, -, screened⟩ := read_of_fate (.inl delivered)
  obtain ⟨window, storage, offset, length, bytes_eq, taken⟩ :=
    take_read now lent (.inl delivered)
  refine ⟨window, storage, offset, length, bytes_eq, ?_⟩
  have admitted := screened_eq_delivered_iff.1 (screened.symm.trans delivered)
  rw [taken, judge_admitted]
  intro f found
  exact bytes_eq ▸ admitted f found

theorem take_rejected (lent : loan.window.capacity = c.pool.size)
    (rejected : c.fate loan (.packet bytes claimed source) = .rejected) :
    ∃ window : Window, ∃ f, c.filter = some f ∧
      Packet.admits f.wanted (seen loan bytes (reported loan bytes claimed)) = false ∧
      window.storage = (filled loan bytes).window.storage ∧
      window.bytes = seen loan bytes (reported loan bytes claimed) ∧
      c.take now loan (.packet bytes claimed source) =
        (.continue,
          { c.recycle ⟨loan.owner, window⟩ with
            filter := some (f.accept now window.bytes).2.1
            counts := c.counts.report [(.rejectedPkts, 1)] },
          (f.accept now window.bytes).2.2.toList.map fun w => .report (.filtered w)) := by
  obtain ⟨-, -, -, screened⟩ := read_of_fate (.inr rejected)
  obtain ⟨window, storage, -, -, bytes_eq, taken⟩ :=
    take_read now lent (.inr rejected)
  obtain ⟨f, found, refused⟩ := screened_eq_rejected_iff.1 (screened.symm.trans rejected)
  refine ⟨window, f, found, refused, storage, bytes_eq, ?_⟩
  rw [taken, judge_refused found (bytes_eq ▸ refused)]

theorem take_truncated (lent : loan.window.capacity = c.pool.size)
    (truncated : c.fate loan (.packet bytes claimed source) = .truncated) :
    c.take now loan (.packet bytes claimed source) =
      (.continue, (c.dropOversized now (filled loan bytes) source).1,
        (c.dropOversized now (filled loan bytes) source).2) := by
  obtain ⟨udp, full⟩ := fate_truncated_iff.1 truncated
  exact take_oversized udp (lent ▸ full)

/-- More of a stream than there was room for ends the receive, and nothing else happens. -/
theorem take_overrun (tcp : c.transport = .tcp)
    (beyond : loan.window.capacity < reported loan bytes claimed) :
    ∃ e, c.take now loan (.packet bytes claimed source) =
      (.done (.error (.window e)), c, []) := by
  have outside : ¬ 0 + reported loan bytes claimed ≤
      (filled loan bytes).window.storage.size := by
    rw [Nat.zero_add]
    exact Nat.not_le.2 beyond
  have notDrained : reported loan bytes claimed ≠ 0 := by omega
  refine ⟨⟨0, reported loan bytes claimed, (filled loan bytes).window.storage.size⟩, ?_⟩
  rw [take_packet (by simp [notDrained]) (by simp [tcp]), Window.make, dif_neg outside]

/-- A receive that is ended by what a socket hands over closes the connector, unless the
socket has reported more than it was given room for; then nothing else happens. -/
theorem take_ended {arrival : Arrival} (ended : c.fate loan arrival = .ended) :
    (∃ (d : Connector) (given : Loan) (first : List Action), c.take now loan arrival =
        (.done (.error .closed), (d.fail given).1, first ++ (d.fail given).2) ∧
      d.line = c.line ∧ d.books = c.books ∧ d.standing = c.standing ∧ d.pool = c.pool ∧
      logged first = [] ∧ closings first = []) ∨
    (¬ Honest loan arrival ∧
      ∃ e, c.take now loan arrival = (.done (.error (.window e)), c, [])) := by
  cases arrival with
  | failed fault =>
      left
      exact ⟨_, loan, _, take_failed fault, rfl, rfl, rfl, rfl, c.logged_gated now _,
        closings_gated _ _ _ rfl⟩
  | packet bytes claimed source =>
      obtain ⟨tcp, empty | beyond⟩ := fate_ended_iff.1 ended
      · left
        exact ⟨c, filled loan bytes, [.report (.peerClosed c.protocol source c.interface)],
          take_drained tcp empty, rfl, rfl, rfl, rfl, rfl, rfl⟩
      · right
        exact ⟨fun honest => absurd honest.reported_le (Nat.not_le.2 beyond),
          take_overrun now tcp beyond⟩

/-! ## What a receive does -/

/-- What a receive does about what it is handed, one case for each fate and one for a
socket that is not honest. -/
inductive Taken (c : Connector) (now : Tick) (loan : Loan) :
    Arrival → Progress → Connector → List Action → Prop where
  | delivered {bytes : Octets} {claimed : Option Nat} {source : Address} {window : Window}
      (fate : c.fate loan (.packet bytes claimed source) = .delivered)
      (storage : window.storage = (filled loan bytes).window.storage) :
      Taken c now loan (.packet bytes claimed source)
        (.done (.ok ⟨⟨loan.owner, window⟩, source⟩))
        { c with
          counts := c.counts.report
            [(.receivedBytes, UInt64.ofNat window.length), (.receivedPkts, 1)] }
        (c.recorded source false window.bytes)
  | rejected {bytes : Octets} {claimed : Option Nat} {source : Address} {window : Window}
      {f : Filter} (fate : c.fate loan (.packet bytes claimed source) = .rejected)
      (filter : c.filter = some f)
      (refused : Packet.admits f.wanted window.bytes = false) :
      Taken c now loan (.packet bytes claimed source) .continue
        { c.recycle ⟨loan.owner, window⟩ with
          filter := some (f.accept now window.bytes).2.1
          counts := c.counts.report [(.rejectedPkts, 1)] }
        ((f.accept now window.bytes).2.2.toList.map fun w => .report (.filtered w))
  | truncated {bytes : Octets} {claimed : Option Nat} {source : Address}
      (fate : c.fate loan (.packet bytes claimed source) = .truncated) :
      Taken c now loan (.packet bytes claimed source) .continue
        (c.dropOversized now (filled loan bytes) source).1
        (c.dropOversized now (filled loan bytes) source).2
  | ended {arrival : Arrival} {d : Connector} {given : Loan} {first : List Action}
      (fate : c.fate loan arrival = .ended) (line : d.line = c.line)
      (books : d.books = c.books) (standing : d.standing = c.standing) (pool : d.pool = c.pool)
      (silent : logged first = []) (quiet : closings first = []) :
      Taken c now loan arrival (.done (.error .closed)) (d.fail given).1
        (first ++ (d.fail given).2)
  | overrun {arrival : Arrival} {e : Window.OutOfBounds} (fate : c.fate loan arrival = .ended)
      (dishonest : ¬ Honest loan arrival) :
      Taken c now loan arrival (.done (.error (.window e))) c []

/-- A receive does no more than that. -/
theorem taken_of_take (lent : loan.window.capacity = c.pool.size) {arrival : Arrival}
    {progress : Progress} {d : Connector} {actions : List Action}
    (taken : c.take now loan arrival = (progress, d, actions)) :
    Taken c now loan arrival progress d actions := by
  cases fate : c.fate loan arrival with
  | ended =>
      rcases take_ended now fate with
        ⟨last, given, first, answer, line, books, standing, pool, silent, quiet⟩ |
        ⟨dishonest, e, answer⟩
      · cases taken.symm.trans answer
        exact .ended fate line books standing pool silent quiet
      · cases taken.symm.trans answer
        exact .overrun fate dishonest
  | delivered =>
      cases arrival with
      | failed fault => cases fate
      | packet bytes claimed source =>
          obtain ⟨window, storage, -, -, -, answer⟩ := take_delivered now lent fate
          cases taken.symm.trans answer
          exact .delivered fate storage
  | rejected =>
      cases arrival with
      | failed fault => cases fate
      | packet bytes claimed source =>
          obtain ⟨window, f, filter, refused, -, bytes_eq, answer⟩ := take_rejected now lent fate
          cases taken.symm.trans answer
          exact .rejected fate filter (bytes_eq.symm ▸ refused)
  | truncated =>
      cases arrival with
      | failed fault => cases fate
      | packet bytes claimed source =>
          cases taken.symm.trans (take_truncated now lent fate)
          exact .truncated fate

theorem close_uniform (uniform : c.pool.Uniform) : c.close.1.pool.Uniform := by
  unfold close
  split
  · exact uniform
  · exact Pool.uniform_close _

theorem fail_uniform (uniform : c.pool.Uniform) (given : Loan) :
    (c.fail given).1.pool.Uniform :=
  close_uniform (Pool.uniform_recycle uniform given)

namespace Taken

variable {now} {arrival : Arrival} {progress : Progress} {d : Connector}
  {actions : List Action}

/-- The answer of a receive tells what became of what it was handed. -/
theorem fate (taken : Taken c now loan arrival progress d actions) :
    progress.Tells (c.fate loan arrival) := by
  cases taken with
  | delivered fate => exact fate
  | rejected fate => exact .inl fate
  | truncated fate => exact .inr fate
  | ended fate => exact fate
  | overrun fate => exact fate

/-- The packet that a receive returns is in the buffer that the receive was lent. -/
theorem returned {packet : Received}
    (taken : Taken c now loan arrival (.done (.ok packet)) d actions) :
    packet.loan.owner = loan.owner ∧
      packet.loan.window.capacity = loan.window.capacity := by
  cases taken with
  | delivered fate storage =>
      exact ⟨rfl, (congrArg Storage.size storage).trans (filled_capacity loan _)⟩

theorem line (taken : Taken c now loan arrival progress d actions) : d.line = c.line := by
  cases taken with
  | delivered => rfl
  | rejected fate filter refused =>
      have wanted := (Filter.accept_refused now refused).2.1
      simp [Connector.line, recycle, filter, wanted]
  | truncated => exact dropOversized_line ..
  | @ended _ last given _ _ line => exact (last.fail_line given).trans line
  | overrun => rfl

/-- What ends no receive leaves the end of the connector alone. -/
theorem standing (taken : Taken c now loan arrival progress d actions)
    (noError : ∀ e, progress ≠ .done (.error e)) : d.standing = c.standing := by
  cases taken with
  | delivered => rfl
  | rejected => exact c.recycle_standing _
  | truncated => exact c.dropOversized_standing ..
  | ended | overrun => exact absurd rfl (noError _)

/-- What ends no receive leaves the buffer of the receive under way alone. -/
theorem waiting (taken : Taken c now loan arrival progress d actions)
    (noError : ∀ e, progress ≠ .done (.error e)) : d.waiting = c.waiting := by
  cases taken with
  | delivered | rejected | truncated => rfl
  | ended | overrun => exact absurd rfl (noError _)

theorem uniform (taken : Taken c now loan arrival progress d actions)
    (uniform : c.pool.Uniform) : d.pool.Uniform := by
  cases taken with
  | delivered => exact uniform
  | rejected => exact Pool.uniform_recycle uniform _
  | truncated => exact Pool.uniform_recycle uniform _
  | ended _ _ _ _ pool => exact fail_uniform (pool ▸ uniform) _
  | overrun => exact uniform

end Taken

end Fates

end MediaTransport.Connector
