/-
# MediaTransport.Proofs.Session.Tracking -- no media packet goes untracked

The media loop passes over packets that are too short for a sequence number.  It never meets
one: what its receive returns was let through as a media packet (`admitted_of_mem_handled`), and
such a packet has at least the four octets that the number needs.  So each packet that the loop
takes is tracked: either its number is the latest one from then on, or the packet is reported as
out of order and the number that it is behind stays (`Tracked`, `tracks_of_start`).

The rest of the header is read in the same way, as far as it goes.  What the readers find is
stated together with what the loop does about it (`header_read_and_tracked`).
-/
import MediaTransport.Proofs.Packet.Feedback.Demultiplexing
import MediaTransport.Proofs.Packet.Header
import MediaTransport.Proofs.Session.Highest
import MediaTransport.Proofs.Session.Starting

namespace MediaTransport.Session

set_option autoImplicit false

open Net (Host Peer)
open Packet (admits classify)
open Packet.Header
open Packet.Sequence (isAfter)

/-! ## What a receive returns -/

namespace Loop

variable {σ : Type}

/-- A loop that waits for packets of a protocol, or has ended. -/
inductive Expects (protocol : Protocol) (l : Loop σ) : Prop
  | waits {c : Connector} {loan : Loan} (waits : l.Waits c loan)
      (wanted : c.line.wanted = some protocol)
  | ended (ended : l.outcome.isSome = true)

section Feed

variable {protocol : Protocol} {l : Loop σ} {c d : Connector} {loan : Loan} {now : Tick}
  {inbox left : List Arrival}

theorem returned_of_waits (waits : l.Waits c loan) {result : Connector.Poll}
    {actions : List Connector.Action} {packet : Received}
    (pumped : Connector.pump now inbox c loan = ⟨result, d, actions, left⟩) :
    l.returned now inbox = some packet ↔ result = .ready (.ok packet) := by
  have polled := poll_of_waits waits pumped
  unfold returned
  rw [waits.running, polled]
  cases result with
  | pending => simp
  | ready answer => cases answer <;> simp

theorem returned_of_ended (ended : l.outcome.isSome = true) : l.returned now inbox = none := by
  obtain ⟨outcome, found⟩ := Option.isSome_iff_exists.1 ended
  unfold returned
  rw [found]

/-- A loop goes on expecting packets of its protocol, and its receive returns no others. -/
theorem Expects.feed (handler : Handler σ) (expects : l.Expects protocol) (now : Tick)
    (arrival : Arrival) :
    (l.feed handler now arrival).1.Expects protocol ∧
      ∀ packet, l.returned now [arrival] = some packet →
        admits protocol packet.loan.window.bytes = true := by
  cases expects with
  | ended ended =>
      rw [feed_of_ended handler ended, returned_of_ended ended]
      exact ⟨.ended ended, nofun⟩
  | @waits c loan waits wanted =>
      rcases taken : c.take now loan arrival with ⟨progress, d, actions⟩
      have line := (Connector.taken_of_take now waits.capacity taken).line
      cases progress with
      | «continue» =>
          obtain ⟨next, fed, -, waits_next⟩ := feed_of_skip handler waits taken
          have pumped := pump_of_skip waits taken
          rw [fed]
          constructor
          · refine .waits waits_next ?_
            rw [← wanted, ← line]
            rfl
          · intro packet returned
            cases (returned_of_waits waits pumped).1 returned
      | done result =>
          have pumped := Traffic.pump_done [] waits.not_closed taken
          cases result with
          | error e =>
              constructor
              · exact .ended (feed_of_error handler waits taken)
              · intro packet returned
                cases (returned_of_waits waits pumped).1 returned
          | ok delivered =>
              obtain ⟨next, fed, -, waits_next⟩ := feed_of_deliver handler waits taken
              rw [fed]
              constructor
              · refine .waits waits_next ?_
                rw [← wanted, ← line]
                rfl
              · intro packet returned
                cases (returned_of_waits waits pumped).1 returned
                obtain ⟨f, filter, rfl⟩ := Option.map_eq_some_iff.1 wanted
                exact Connector.admitted_of_take waits.capacity taken filter

end Feed

end Loop

namespace Media

/-- All packets that a loop takes are of the protocol that it expects. -/
theorem admitted_of_mem_handled {protocol : Protocol} (history : List (Tick × Arrival))
    {l : Loop Highest} (expects : l.Expects protocol) :
    ∀ h ∈ handled history l, admits protocol h.packet.loan.window.bytes = true := by
  induction history generalizing l with
  | nil => exact nofun
  | cons first rest ih =>
      obtain ⟨now, arrival⟩ := first
      obtain ⟨expects_next, admitted⟩ := expects.feed handler now arrival
      cases found : l.returned now [arrival] with
      | none =>
          rw [handled_of_nothing found]
          exact ih expects_next
      | some packet =>
          rw [handled_of_packet found]
          intro h member
          rcases List.mem_cons.1 member with rfl | later
          · exact admitted packet found
          · exact ih expects_next h later

/-! ## Tracking -/

/-- What the loop does about a packet that it tracks, from the number that it has kept. -/
inductive Tracked (before : Highest) (h : Handled) : Prop
  | latest {sequence : UInt16} (number : h.number = some sequence)
      (ahead : ∀ last ∈ before, isAfter sequence last = true) (kept : h.kept = some sequence)
      (silent : h.lates = [])
  | late {sequence last : UInt16} (number : h.number = some sequence) (found : before = some last)
      (behind : isAfter sequence last = false) (kept : h.kept = some last)
      (reported : h.lates = [.outOfOrder sequence last h.packet.source])

/-- Each packet of a history is tracked, from what was kept after the one before it. -/
inductive Tracks : Highest → List Handled → Prop
  | nil (before : Highest) : Tracks before []
  | cons {before : Highest} {h : Handled} {rest : List Handled} (first : Tracked before h)
      (later : Tracks h.kept rest) : Tracks before (h :: rest)

/-- The handler tracks a packet with a number. -/
theorem tracked_of_handler (before : Highest) {packet : Received} {sequence : UInt16}
    (number : sequenceNumber packet.loan.window.bytes = some sequence) :
    let answer := handler before packet.loan.window.bytes packet.source
    Tracked before ⟨packet, answer.1, lates (answer.2.map .noted)⟩ := by
  intro answer
  cases before with
  | none =>
      have answered : answer = (some sequence, []) := by simp [answer, handler, number]
      rw [answered]
      exact .latest number (by simp) rfl rfl
  | some last =>
      cases ahead : isAfter sequence last with
      | true =>
          have answered : answer = (some sequence, []) := by simp [answer, handler, number, ahead]
          rw [answered]
          refine .latest number (fun other found => ?_) rfl rfl
          cases found
          exact ahead
      | false =>
          have answered : answer = (some last, [.outOfOrder sequence last packet.source]) := by
            simp [answer, handler, number, ahead]
          rw [answered]
          exact .late number rfl ahead rfl rfl

/-- A loop whose packets all have numbers tracks them all. -/
theorem tracks_handled (history : List (Tick × Arrival)) {l : Loop Highest}
    (numbered : ∀ h ∈ handled history l, h.number.isSome = true) :
    Tracks l.state (handled history l) := by
  induction history generalizing l with
  | nil => exact .nil _
  | cons first rest ih =>
      obtain ⟨now, arrival⟩ := first
      obtain ⟨kept, notes⟩ := Loop.feed_handling handler now arrival l
      cases found : l.returned now [arrival] with
      | none =>
          rw [found] at kept
          rw [handled_of_nothing found] at numbered ⊢
          have same : (l.feed handler now arrival).1.state = l.state := kept
          rw [← same]
          exact ih numbered
      | some packet =>
          rw [found] at kept notes
          rw [handled_of_packet found] at numbered ⊢
          obtain ⟨sequence, number⟩ :=
            Option.isSome_iff_exists.1 (numbered _ List.mem_cons_self)
          have tracked := tracked_of_handler l.state number
          constructor
          · rw [kept, notes]
            exact tracked
          · exact ih fun h later => numbered h (List.mem_cons_of_mem _ later)

/-- A media packet has a sequence number. -/
theorem number_of_admitted {h : Handled}
    (admitted : admits .rtp h.packet.loan.window.bytes = true) : h.number.isSome = true := by
  have media : classify h.packet.loan.window.bytes = .rtp := eq_of_beq admitted
  exact (needs_sequenceNumber.isSome_iff _).2 (lead_of_classify media)

/-- The media loop of a session tracks all packets that it takes. -/
theorem tracks_of_start {host : Host} {peers : Streams (Option Peer)} {config : Config}
    {limit : Log.Threshold} {s : Session}
    (started : (Session.start host peers config limit).1 = .ok s)
    (history : List (Tick × Arrival)) : Tracks none (handled history s.media) := by
  obtain ⟨address, -, media, -⟩ := loops_of_start started
  obtain ⟨state, c, loan, waits, line⟩ :=
    Loop.waits_start handler config .rtp address true 0 none
  rw [← media] at state waits
  have expects : s.media.Expects .rtp := .waits waits (congrArg Connector.Line.wanted line)
  rw [← state]
  apply tracks_handled
  intro h member
  exact number_of_admitted (admitted_of_mem_handled history expects h member)

/-- **Each field of the header is found as soon as its octets are there, the five of them are
the octets from the second to the twelfth, and classifier and media loop read them alike.**
Whatever the classifier takes for media has a marker, a payload type and a sequence number, so
that the media loop tracks every packet that it takes; and of the packets of the right version,
those are control traffic that have the marker and a payload type from 72 to 83. -/
theorem header_read_and_tracked :
    (Needs marker 2 ∧ Needs payloadType 2 ∧ Needs sequenceNumber 4 ∧ Needs timestamp 8 ∧
        Needs ssrc 12) ∧
      (∀ first fields rest, Carries (first :: (fields.octets ++ rest)) fields) ∧
      (∀ bytes : Octets, 12 ≤ bytes.length →
        ∃ fields, Carries bytes fields ∧ fields.octets = (bytes.drop 1).take 11) ∧
      (∀ bytes other : Octets, 12 ≤ bytes.length → 12 ≤ other.length →
        (Agree bytes other ↔ (bytes.drop 1).take 11 = (other.drop 1).take 11)) ∧
      (∀ bytes, classify bytes = .rtp →
        (marker bytes).isSome ∧ (payloadType bytes).isSome ∧ (sequenceNumber bytes).isSome) ∧
      (∀ host peers config limit s, (Session.start host peers config limit).1 = .ok s →
        ∀ history, Tracks none (handled history s.media)) ∧
      ∀ bytes : Octets, 4 ≤ bytes.length → bytes[0]?.map Packet.versionOf = some 2 →
        (classify bytes = .rtcp ↔
          marker bytes = some true ∧ ∃ p, payloadType bytes = some p ∧ 72 ≤ p ∧ p ≤ 83) := by
  refine ⟨⟨needs_marker, needs_payloadType, needs_sequenceNumber, needs_timestamp, needs_ssrc⟩,
    carries_octets, ?_, ?_, ?_, ?_, ?_⟩
  · intro bytes complete
    obtain ⟨fields, carries⟩ := exists_carries complete
    exact ⟨fields, carries, octets_of_carries carries⟩
  · intro bytes other complete complete'
    exact agree_iff complete complete'
  · intro bytes media
    have lead : 4 ≤ bytes.length := lead_of_classify media
    have second : 2 ≤ bytes.length := Nat.le_trans (by decide) lead
    refine ⟨?_, ?_, ?_⟩
    · exact (needs_marker.isSome_iff bytes).2 second
    · exact (needs_payloadType.isSome_iff bytes).2 second
    · exact (needs_sequenceNumber.isSome_iff bytes).2 lead
  · intro host peers config limit s started history
    exact tracks_of_start started history
  · intro bytes lead current
    exact classify_eq_rtcp_iff lead current

/-- A media packet that is a header and nothing else. -/
def exampleHeader : Octets :=
  [0x80, 0xe0, 0xff, 0xfe, 0x00, 0x00, 0x03, 0xe8, 0x12, 0x34, 0x56, 0x78]

/-- The fields of the example, a packet with the same fields, a control packet, and the media
packets of a session, of which two are out of order. -/
theorem header_read_and_tracked_of_example :
    (Carries exampleHeader ⟨true, 96, 65534, 1000, 0x12345678, by decide⟩ ∧
      ∃ fields, Carries exampleHeader fields ∧ fields.octets = exampleHeader.tail) ∧
    Agree exampleHeader (0x91 :: (exampleHeader.tail ++ [0, 0])) ∧
    (sequenceNumber exampleHeader).isSome = true ∧
    (∃ s, (Session.start { routed := true } ⟨none, none⟩ {} (some .info)).1 = .ok s ∧
      Tracks none (handled exampleHistory s.media) ∧
      (handled exampleHistory s.media).map (fun h => (h.number, h.lates.length)) =
        [(some 65534, 0), (some 0, 0), (some 65535, 1), (some 0, 1), (some 32767, 0)]) ∧
    classify [0x80, 200, 0, 6] = .rtcp ∧ classify exampleHeader ≠ .rtcp := by
  obtain ⟨-, put, complete, agree, media, tracked, control⟩ := header_read_and_tracked
  refine ⟨⟨?_, complete exampleHeader (by decide)⟩, ?_, ?_, ?_, ?_, ?_⟩
  · exact put 0x80 ⟨true, 96, 65534, 1000, 0x12345678, by decide⟩ []
  · exact (agree _ _ (by decide) (by decide)).2 rfl
  · exact (media exampleHeader rfl).2.2
  · obtain ⟨s, started, numbers⟩ : ∃ s,
        (Session.start { routed := true } ⟨none, none⟩ {} (some .info)).1 = .ok s ∧
          (handled exampleHistory s.media).map (fun h => (h.number, h.lates.length)) = _ :=
      ⟨_, rfl, rfl⟩
    exact ⟨s, started, tracked _ _ _ _ s started exampleHistory, numbers⟩
  · exact (control [0x80, 200, 0, 6] (by decide) rfl).2 ⟨rfl, 72, by decide⟩
  · intro traffic
    obtain ⟨-, p, found, -, most⟩ := (control exampleHeader (by decide) rfl).1 traffic
    cases found
    exact absurd most (by decide)

end Media

end MediaTransport.Session
