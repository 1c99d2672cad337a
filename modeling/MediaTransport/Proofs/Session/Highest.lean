/-
# MediaTransport.Proofs.Session.Highest -- the media loop follows the stream

The media loop keeps one number of 16 bits, while a stream may go round the number space as
often as it likes.  Let the packets that the loop takes have the places `s 0`, `s 1`, … in
their stream.  If each of them is within 32767 places of the highest before it, the loop
keeps the number of the highest, and reports exactly the packets that are not ahead of it,
the late ones and the repeated ones (`highest_followed`).

What the loop does is read off its history (`handled`): each packet that its receive has
returned, what the loop keeps afterwards and what it has reported in between.  An arrival
that the connector does not let through is not handled, and nothing is reported of it.
-/
import Mathlib.Algebra.Order.SuccPred.PartialSups
import Mathlib.Data.Nat.SuccPred
import MediaTransport.Proofs.Connector.Polls
import MediaTransport.Proofs.Packet.Sequence.Places
import MediaTransport.Session.Media

namespace MediaTransport.Session

set_option autoImplicit false

open Net (Address)
open Packet (Header.sequenceNumber)
open Packet.Sequence (isAfter isAfter_onWire onWire)

/-! ## Reports about the order -/

/-- The report that a packet is out of order, if that is what happens. -/
def Happening.late? : Happening → Option Note
  | .noted (.outOfOrder sequence highest source) => some (.outOfOrder sequence highest source)
  | _ => none

def lates (happenings : List Happening) : List Note :=
  happenings.filterMap Happening.late?

@[simp] theorem lates_append (first last : List Happening) :
    lates (first ++ last) = lates first ++ lates last :=
  List.filterMap_append

@[simp] theorem lates_acted (actions : List Connector.Action) :
    lates (actions.map .acted) = [] := by
  simp [lates, Happening.late?]

/-! ## What a loop takes -/

namespace Loop

section Feed

variable {σ : Type} (handler : Handler σ)

/-- The packet that the receive of a loop returns, if it returns one. -/
def returned (now : Tick) (inbox : List Arrival) (l : Loop σ) : Option Received :=
  match l.outcome, (l.channel.poll now inbox).1 with
  | none, .ready (.ok packet) => some packet
  | _, _ => none

/-- What the handler makes of the packet that a receive returns, if it returns one. -/
def handling (state : σ) : Option Received → σ × List Note
  | none => (state, [])
  | some packet => handler state packet.loan.window.bytes packet.source

theorem finish_keeps (l : Loop σ) (error : Connector.Error) :
    (l.finish error).1.state = l.state ∧ lates (l.finish error).2 = [] := by
  cases error <;> exact ⟨rfl, rfl⟩

theorem advance_handling (now : Tick) (inbox : List Arrival) (l : Loop σ) :
    let handled := handling handler l.state (l.returned now inbox)
    (l.advance handler now inbox).1.state = handled.1 ∧
      lates (l.advance handler now inbox).2 = lates (handled.2.map .noted) := by
  cases outcome : l.outcome with
  | some ended =>
      simp only [advance, returned, outcome]
      exact ⟨rfl, rfl⟩
  | none =>
      rcases polled : l.channel.poll now inbox with ⟨answer, channel, actions, left⟩
      cases answer with
      | pending =>
          simp only [advance, returned, outcome, polled, lates_append, lates_acted]
          exact ⟨rfl, rfl⟩
      | ready result =>
          cases result with
          | error e =>
              have kept := finish_keeps { l with channel } e
              simp only [advance, returned, outcome, polled, lates_append, lates_acted]
              exact kept
          | ok packet =>
              simp only [advance, returned, outcome, polled, lates_append, lates_acted]
              exact ⟨rfl, rfl⟩

/-- A receive that is handed nothing does not return a packet. -/
theorem returned_nil (now : Tick) (l : Loop σ) : l.returned now [] = none := by
  have pumped : ∀ (c : Connector) (loan : Loan) (packet : Received),
      (Connector.pump now [] c loan).result ≠ .ready (.ok packet) := by
    intro c loan packet
    by_cases closed : c.closed = true
    · rw [Traffic.pump_of_closed [] closed]
      exact nofun
    · rw [Traffic.pump_nil closed]
      exact nofun
  have polled : ∀ packet, (l.channel.poll now []).1 ≠ .ready (.ok packet) := by
    intro packet
    show (l.channel.connector.poll now []).result ≠ _
    unfold Connector.poll
    split
    · exact pumped _ _ packet
    · split
      · exact nofun
      · exact pumped _ _ packet
  unfold returned
  split
  · rename_i packet _ answered
    exact absurd answered (polled packet)
  · rfl

/-- An arrival is handled if the receive returns it. -/
theorem feed_handling (now : Tick) (arrival : Arrival) (l : Loop σ) :
    let handled := handling handler l.state (l.returned now [arrival])
    (l.feed handler now arrival).1.state = handled.1 ∧
      lates (l.feed handler now arrival).2 = lates (handled.2.map .noted) := by
  obtain ⟨state, notes⟩ := advance_handling handler now [arrival] l
  -- The receive that is started next finds nothing.
  obtain ⟨kept, silent⟩ := advance_handling handler now [] (l.advance handler now [arrival]).1
  rw [returned_nil] at kept silent
  have fed : (l.feed handler now arrival).2 =
      (l.advance handler now [arrival]).2 ++
        ((l.advance handler now [arrival]).1.advance handler now []).2 := rfl
  refine ⟨kept.trans state, ?_⟩
  rw [fed, lates_append, notes, silent]
  exact List.append_nil _

/-- A loop that waits for its first packet keeps what it was given. -/
theorem state_start (now : Tick) (channel : Channel) (state : σ) :
    (start handler now channel state).1.state = state := by
  have advanced := (advance_handling handler now [] { channel, state }).1
  rwa [returned_nil] at advanced

end Feed

end Loop

namespace Media

/-! ## Places -/

/-- The highest of the first places of a stream. -/
def highest (s : Nat → Int) : Nat → Option Int
  | 0 => none
  | n + 1 => some (partialSups s n)

theorem highest_succ_of_lt {s : Nat → Int} {i : Nat} {top : Int} (found : highest s i = some top)
    (ahead : top < s i) : highest s (i + 1) = some (s i) := by
  cases i with
  | zero => cases found
  | succ n =>
      cases found
      rw [highest, partialSups_add_one, sup_of_le_right (le_of_lt ahead)]

theorem highest_succ_of_le {s : Nat → Int} {i : Nat} {top : Int} (found : highest s i = some top)
    (behind : s i ≤ top) : highest s (i + 1) = some top := by
  cases i with
  | zero => cases found
  | succ n =>
      cases found
      rw [highest, partialSups_add_one, sup_of_le_left behind]

/-- What is reported of a packet: that it is not ahead of the highest before it. -/
def report (s : Nat → Int) (i : Nat) (source : Address) : List Note :=
  match highest s i with
  | none => []
  | some top => if s i ≤ top then [.outOfOrder (onWire (s i)) (onWire top) source] else []

/-- The handler keeps the number of the highest place. -/
theorem handler_follows {s : Nat → Int} {i : Nat} {bytes : Octets} (source : Address)
    (number : Header.sequenceNumber bytes = some (onWire (s i)))
    (near : ∀ top ∈ highest s i, (s i - top).natAbs ≤ 32767) :
    handler ((highest s i).map onWire) bytes source =
      ((highest s (i + 1)).map onWire, report s i source) := by
  cases found : highest s i with
  | none =>
      cases i with
      | zero => simp [handler, number, report, highest]
      | succ n => cases found
  | some top =>
      have ordered := isAfter_onWire (near top found)
      by_cases behind : s i ≤ top
      · simp [handler, number, report, found, ordered, behind, highest_succ_of_le found behind]
      · have ahead := lt_of_not_ge behind
        simp [handler, number, report, found, ordered, behind, ahead,
          highest_succ_of_lt found ahead]

theorem lates_report (s : Nat → Int) (i : Nat) (source : Address) :
    lates ((report s i source).map .noted) = report s i source := by
  unfold report
  split
  · rfl
  · split <;> rfl

/-! ## The history of the loop -/

/-- A packet that the loop has taken, what the loop keeps afterwards and what it has reported
about the order in between. -/
structure Handled where
  packet : Received
  kept : Highest
  lates : List Note

/-- What a loop does about the packets among arrivals, each at its instant. -/
def handled : List (Tick × Arrival) → Loop Highest → List Handled
  | [], _ => []
  | (now, arrival) :: rest, l =>
    let (next, happenings) := l.feed handler now arrival
    match l.returned now [arrival] with
    | none => handled rest next
    | some packet => ⟨packet, next.state, lates happenings⟩ :: handled rest next

section History

variable {l : Loop Highest} {now : Tick} {arrival : Arrival} {rest : List (Tick × Arrival)}

theorem handled_of_nothing (nothing : l.returned now [arrival] = none) :
    handled ((now, arrival) :: rest) l = handled rest (l.feed handler now arrival).1 := by
  simp only [handled, nothing]

theorem handled_of_packet {packet : Received} (found : l.returned now [arrival] = some packet) :
    handled ((now, arrival) :: rest) l =
      ⟨packet, (l.feed handler now arrival).1.state, lates (l.feed handler now arrival).2⟩ ::
        handled rest (l.feed handler now arrival).1 := by
  simp only [handled, found]

/-- Nothing is reported about the order but in the handling of a packet. -/
theorem lates_run (history : List (Tick × Arrival)) (l : Loop Highest) :
    lates (l.run handler history).2 = (handled history l).flatMap Handled.lates := by
  induction history generalizing l with
  | nil => rfl
  | cons first rest ih =>
      obtain ⟨now, arrival⟩ := first
      have ran : (l.run handler ((now, arrival) :: rest)).2 =
          (l.feed handler now arrival).2 ++ ((l.feed handler now arrival).1.run handler rest).2 :=
        rfl
      rw [ran, lates_append, ih]
      cases found : l.returned now [arrival] with
      | none =>
          obtain ⟨-, silent⟩ := Loop.feed_handling handler now arrival l
          rw [found] at silent
          rw [handled_of_nothing found, silent]
          rfl
      | some packet => rw [handled_of_packet found, List.flatMap_cons]

end History

/-! ## The loop follows the stream -/

/-- The number of a packet that the loop has taken. -/
def Handled.number (h : Handled) : Option UInt16 :=
  Header.sequenceNumber h.packet.loan.window.bytes

/-- A loop that has seen some packets of a stream follows the rest. -/
theorem follows_from {s : Nat → Int} (history : List (Tick × Arrival)) {l : Loop Highest}
    {seen : Nat} (state : l.state = (highest s seen).map onWire)
    (carried : ∀ i h, (handled history l)[i]? = some h → h.number = some (onWire (s (seen + i))))
    (near : ∀ i, i < (handled history l).length →
      ∀ top ∈ highest s (seen + i), (s (seen + i) - top).natAbs ≤ 32767) :
    (l.run handler history).1.state =
        (highest s (seen + (handled history l).length)).map onWire ∧
      ∀ i h, (handled history l)[i]? = some h →
        h.kept = (highest s (seen + i + 1)).map onWire ∧
          h.lates = report s (seen + i) h.packet.source := by
  induction history generalizing l seen with
  | nil => exact ⟨state, nofun⟩
  | cons first rest ih =>
      obtain ⟨now, arrival⟩ := first
      obtain ⟨kept, notes⟩ := Loop.feed_handling handler now arrival l
      cases found : l.returned now [arrival] with
      | none =>
          rw [found] at kept
          rw [handled_of_nothing found] at carried near ⊢
          exact ih (kept.trans state) carried near
      | some packet =>
          rw [handled_of_packet found] at carried near ⊢
          have answer := handler_follows packet.source (carried 0 _ rfl) (near 0 (Nat.succ_pos _))
          rw [Nat.add_zero] at answer
          rw [found, Loop.handling, state, answer] at kept notes
          have shift (i : Nat) : seen + (i + 1) = seen + 1 + i := by omega
          obtain ⟨final, later⟩ := ih kept
            (fun i h place => shift i ▸ carried (i + 1) h place)
            (fun i inside => shift i ▸ near (i + 1) (Nat.succ_lt_succ inside))
          rw [← shift] at final
          refine ⟨final, fun i h place => ?_⟩
          cases i with
          | zero =>
              cases place
              exact ⟨kept, notes.trans (lates_report ..)⟩
          | succ i => exact shift i ▸ later i h place

/-- The loop keeps the number of the highest of the packets up to one, and reports that one if
it is not ahead of those before it. -/
structure Follows (s : Nat → Int) (i : Nat) (h : Handled) : Prop where
  kept : h.kept = some (onWire (partialSups s i))
  late : 0 < i → s i ≤ partialSups s (i - 1) →
    h.lates = [.outOfOrder (onWire (s i)) (onWire (partialSups s (i - 1))) h.packet.source]
  timely : (0 < i → partialSups s (i - 1) < s i) → h.lates = []

/-- **However often a stream goes round the number space, the media loop keeps the number of
its highest packet, and reports the packets that are not ahead of it and no others**, if each
packet is less than half the number space from the highest before it. -/
theorem highest_followed {l : Loop Highest} (fresh : l.state = none)
    (history : List (Tick × Arrival)) {s : Nat → Int}
    (carried : ∀ i h, (handled history l)[i]? = some h → h.number = some (onWire (s i)))
    (near : ∀ i, i + 1 < (handled history l).length →
      (s (i + 1) - partialSups s i).natAbs ≤ 32767) :
    (∀ i h, (handled history l)[i]? = some h → Follows s i h) ∧
      lates (l.run handler history).2 = (handled history l).flatMap Handled.lates := by
  refine ⟨fun i h place => ?_, lates_run history l⟩
  have begun : l.state = (highest s 0).map onWire := fresh
  have near_highest : ∀ i, i < (handled history l).length →
      ∀ top ∈ highest s (0 + i), (s (0 + i) - top).natAbs ≤ 32767 := by
    intro i inside top found
    rw [Nat.zero_add] at found ⊢
    cases i with
    | zero => cases found
    | succ i =>
        cases found
        exact near i inside
  obtain ⟨-, followed⟩ := follows_from history begun
    (fun i h place => (Nat.zero_add i).symm ▸ carried i h place) near_highest
  obtain ⟨kept, reported⟩ := followed i h place
  rw [Nat.zero_add] at kept reported
  refine ⟨kept, fun first behind => ?_, fun ahead => ?_⟩
  · rw [reported]
    cases i with
    | zero => cases first
    | succ i => exact if_pos behind
  · rw [reported]
    cases i with
    | zero => rfl
    | succ i => exact if_neg (not_le_of_gt (ahead (Nat.succ_pos i)))

/-! ## An example -/

/-- Four octets of a media packet with some number. -/
def exampleMedia (high low : UInt8) : Tick × Arrival :=
  (0, .packet [0x80, 96, high, low] none Connector.exampleAddress)

/-- The places of the media packets of the example. -/
def examplePlaces : List Int :=
  [65534, 65536, 65535, 65536, 98303]

/-- Media packets that go round the end of the number space, with a control packet among
them. -/
def exampleHistory : List (Tick × Arrival) :=
  [exampleMedia 0xff 0xfe, (0, .packet [0x80, 200, 0, 0] none Connector.exampleAddress),
    exampleMedia 0 0, exampleMedia 0xff 0xff, exampleMedia 0 0, exampleMedia 0x7f 0xff]

/-- A late packet and a repeated one, and one that is as far ahead as it may be. -/
theorem highest_followed_round_the_end :
    let channel := Channel.ofConfig {} .rtp Connector.exampleAddress false 0
    let l := (Loop.start handler 0 channel none).1
    let s : Nat → Int := fun i => examplePlaces.getD i 0
    l.state = none ∧
      (∀ i h, (handled exampleHistory l)[i]? = some h → h.number = some (onWire (s i))) ∧
      (∀ i, i + 1 < (handled exampleHistory l).length →
        (s (i + 1) - partialSups s i).natAbs ≤ 32767) ∧
      (∀ i h, (handled exampleHistory l)[i]? = some h → Follows s i h) ∧
      lates (l.run handler exampleHistory).2 =
        (handled exampleHistory l).flatMap Handled.lates ∧
      (handled exampleHistory l).map (fun h => (h.kept, h.lates.length)) =
        [(some 65534, 0), (some 0, 0), (some 0, 1), (some 0, 1), (some 32767, 0)] := by
  intro channel l s
  have fresh : l.state = none := Loop.state_start handler 0 channel none
  have numbers : (handled exampleHistory l).map Handled.number =
      examplePlaces.map fun place => some (onWire place) := by
    decide
  have carried : ∀ i h, (handled exampleHistory l)[i]? = some h →
      h.number = some (onWire (s i)) := by
    intro i h place
    have number := congrArg (fun list => list[i]?) numbers
    simp only [List.getElem?_map, place, Option.map_some] at number
    obtain ⟨p, found, same⟩ := Option.map_eq_some_iff.1 number.symm
    have here : s i = p := by
      show examplePlaces.getD i 0 = p
      rw [List.getD_eq_getElem?_getD, found]
      rfl
    rw [here, same]
  have near : ∀ i, i + 1 < (handled exampleHistory l).length →
      (s (i + 1) - partialSups s i).natAbs ≤ 32767 := by
    intro i inside
    have five : (handled exampleHistory l).length = 5 := by
      simpa [examplePlaces] using congrArg List.length numbers
    have all : ∀ i < 4, (examplePlaces.getD (i + 1) 0 -
        partialSups (fun i => examplePlaces.getD i 0) i).natAbs ≤ 32767 := by
      decide
    exact all i (by omega)
  obtain ⟨followed, silent⟩ := highest_followed fresh exampleHistory carried near
  exact ⟨fresh, carried, near, followed, silent, by decide⟩

end Media

end MediaTransport.Session
