/-
# MediaTransport.Proofs.Session.Feedback -- what is written about feedback

A control datagram passes the connector, which drops what is too long, the filter, which drops
what is no control packet, and the decoder, before the listener of the session reports it.
Which datagrams are reported, and how, is told from their octets alone (`IsFeedback`,
`feedbackLine`): the four agree (`isFeedback_iff`, `entry_line`).

The loop does one thing about each datagram and is as ready for the next one as before
(`Listens.feed`), so the lines about feedback that it writes are those of the datagrams that
carry feedback, in order and one for each (`feedback_reported`).  Warnings and packet traces
may stand between them, on other levels.
-/
import MediaTransport.Proofs.Dispatch.Snapshot
import MediaTransport.Proofs.Packet.Feedback.Demultiplexing
import MediaTransport.Proofs.Session.Starting

namespace MediaTransport.Session.Control

set_option autoImplicit false

open Net (Address Host Peer)
open Packet (Feedback FeedbackKind)

/-! ## Datagrams that carry feedback -/

section Octets

variable (d : Octets)

/-- The number that some octets spell, the most significant first. -/
def number : Nat :=
  d.foldl (fun n octet => 256 * n + octet.toNat) 0

def versionOf : Nat :=
  (d.getD 0 0).toNat / 64

def formatOf : Nat :=
  (d.getD 0 0).toNat % 32

def typeOf : Nat :=
  (d.getD 1 0).toNat

/-- Whether a datagram is headed as a full intra request. -/
def asksForFrame : Prop :=
  formatOf d = 4 ∧ typeOf d = 206

instance : Decidable (asksForFrame d) :=
  inferInstanceAs (Decidable (_ ∧ _))

/-- The media source that feedback is about, which a full intra request names in its entry. -/
def sourceOf : Nat :=
  if asksForFrame d then number ((d.drop 12).take 4) else number ((d.drop 8).take 4)

/-- Whether a datagram carries feedback, where datagrams have at most `mtu` octets. -/
structure IsFeedback (mtu : Nat) : Prop where
  header : 12 ≤ d.length
  fits : d.length ≤ mtu
  version : versionOf d = 2
  kind : typeOf d = 205 ∨ typeOf d = 206
  entry : asksForFrame d → 20 ≤ d.length

instance (mtu : Nat) : Decidable (IsFeedback d mtu) :=
  decidable_of_iff
    (12 ≤ d.length ∧ d.length ≤ mtu ∧ versionOf d = 2 ∧ (typeOf d = 205 ∨ typeOf d = 206) ∧
      (asksForFrame d → 20 ≤ d.length))
    ⟨fun ⟨header, fits, version, kind, entry⟩ => ⟨header, fits, version, kind, entry⟩,
      fun ⟨header, fits, version, kind, entry⟩ => ⟨header, fits, version, kind, entry⟩⟩

/-- The line that is written about a datagram that carries feedback. -/
def feedbackLine : String :=
  let kind := if typeOf d = 205 then "TransportLayer" else "PayloadSpecific"
  s!"info: rtcp feedback: source={sourceOf d}, fmt={formatOf d}, type={kind}"

end Octets

theorem number_ofWord32 (w : UInt32) : number (Octets.ofWord32 w) = w.toNat := by
  have small := w.toNat_lt
  simp only [number, Octets.ofWord32, List.foldl_cons, List.foldl_nil, UInt8.toNat_ofNat']
  omega

section Agreement

variable {d : Octets} {mtu : Nat}

theorem requests_iff : Feedback.Requests d ↔ asksForFrame d := by
  unfold Feedback.Requests asksForFrame formatOf typeOf
  rcases d with _ | ⟨first, _ | ⟨second, rest⟩⟩
  · simp
  · simp
  · have found : (∃ octet, some first = some octet ∧ octet % 32 = 4) ↔ first % 32 = 4 := by
      simp
    have format : first % 32 = 4 ↔ first.toNat % 32 = 4 := by
      rw [← UInt8.toNat_inj, UInt8.toNat_mod]
      rfl
    have type : some second = some 206 ↔ second.toNat = 206 := by
      rw [Option.some.injEq, ← UInt8.toNat_inj]
      rfl
    show (some second = some 206 ∧ ∃ octet, some first = some octet ∧ octet % 32 = 4) ↔
      first.toNat % 32 = 4 ∧ second.toNat = 206
    rw [found, format, type]
    exact and_comm

theorem readable_iff : Feedback.Readable d ↔
    12 ≤ d.length ∧ (typeOf d = 205 ∨ typeOf d = 206) ∧ (asksForFrame d → 20 ≤ d.length) := by
  have kind : (d[1]? = some 205 ∨ d[1]? = some 206) ↔ typeOf d = 205 ∨ typeOf d = 206 := by
    unfold typeOf
    rcases d with _ | ⟨first, _ | ⟨second, rest⟩⟩
    · simp
    · simp
    · simp [← UInt8.toNat_inj]
  rw [← requests_iff, ← kind]
  exact ⟨fun ⟨header, kind, entry⟩ => ⟨header, kind, entry⟩,
    fun ⟨header, kind, entry⟩ => ⟨header, kind, entry⟩⟩

/-- A packet with a message passes the filter if it is of version 2. -/
theorem admits_iff_of_readable (readable : Feedback.Readable d) :
    Packet.admits .rtcp d = true ↔ versionOf d = 2 := by
  obtain ⟨message, layout⟩ := Feedback.exists_layout readable
  obtain ⟨first, rest, rfl, classified⟩ := Feedback.classify_of_layout layout
  rw [Packet.admits, classified, Feedback.classOf]
  by_cases version : Packet.versionOf first = Packet.version
  · rw [if_pos version]
    exact iff_of_true rfl version
  · rw [if_neg version]
    exact iff_of_false Bool.false_ne_true version

/-- The connector, the filter and the decoder let through what carries feedback. -/
theorem isFeedback_iff : IsFeedback d mtu ↔
    d.length ≤ mtu ∧ Packet.admits .rtcp d = true ∧ (Feedback.decode d).isSome = true := by
  rw [Feedback.decode_isSome_iff]
  constructor
  · rintro ⟨header, fits, version, kind, entry⟩
    have readable := readable_iff.2 ⟨header, kind, entry⟩
    exact ⟨fits, (admits_iff_of_readable readable).2 version, readable⟩
  · rintro ⟨fits, admitted, readable⟩
    obtain ⟨header, kind, entry⟩ := readable_iff.1 readable
    exact ⟨header, fits, (admits_iff_of_readable readable).1 admitted, kind, entry⟩

/-- What is read of a packet is what its octets say. -/
theorem event_of_decode {message : Feedback} (decoded : Feedback.decode d = some message) :
    message.source.toNat = sourceOf d ∧ message.format.toNat = formatOf d ∧
      message.kind.name = if typeOf d = 205 then "TransportLayer" else "PayloadSpecific" := by
  cases Feedback.layout_of_decode decoded with
  | @plain kind first a b sender source rest other =>
      have format : (first % 32).toNat = first.toNat % 32 := UInt8.toNat_mod first 32
      have plain : ¬ asksForFrame
          ([first, kind.code, a, b] ++ (.ofWord32 sender ++ (.ofWord32 source ++ rest))) := by
        rintro ⟨asked, type⟩
        apply other
        constructor
        · cases kind with
          | transportLayer => cases type
          | payloadSpecific => rfl
        · rw [← UInt8.toNat_inj, format]
          exact asked
      refine ⟨?_, format, ?_⟩
      · rw [sourceOf, if_neg plain]
        exact (number_ofWord32 source).symm
      · cases kind <;> rfl
  | @request first a b sender unused source sequence r s t rest format =>
      have asked : first.toNat % 32 = 4 := by
        have low : (first % 32).toNat = first.toNat % 32 := UInt8.toNat_mod first 32
        rw [← low, format]
        rfl
      refine ⟨?_, asked.symm, rfl⟩
      rw [sourceOf, if_pos ⟨asked, rfl⟩]
      exact (number_ofWord32 source).symm

theorem entry_line {message : Feedback} (decoded : Feedback.decode d = some message) :
    (Note.feedback (.of message)).entry.line = feedbackLine d := by
  have text (source format kind : String) :
      "info" ++ ": " ++ ("rtcp feedback" ++ ": " ++ ", ".intercalate
        ["source=" ++ source, "fmt=" ++ format, "type=" ++ kind]) =
      "info: rtcp feedback: source=" ++ source ++ ", fmt=" ++ format ++ ", type=" ++ kind := by
    apply String.ext
    simp
  obtain ⟨source, format, kind⟩ := event_of_decode decoded
  unfold feedbackLine
  rw [← source, ← format, ← kind]
  exact text (toString message.source) (toString message.format) message.kind.name

end Agreement

/-! ## Lines about feedback -/

/-- Whether a line that is written is about feedback. -/
def showsFeedback (line : String) : Bool :=
  "info: rtcp feedback: ".toList.isPrefixOf line.toList

/-- The lines about feedback that are written of what happened. -/
def feedbackLines (limit : Log.Threshold) (logger : PacketLog.Logger)
    (happenings : List Happening) : List String :=
  (Log.written limit (happenings.flatMap fun h => h.entries logger)).filter showsFeedback

/-- An action of which no line on the level of feedback is written. -/
def Quiet (action : Connector.Action) : Prop :=
  ∀ logger, ∀ entry ∈ action.entries logger, entry.level ≠ .info

theorem line_eq (entry : Log.Entry) : entry.line = entry.level.name ++ ": " ++ entry.text :=
  rfl

theorem showsFeedback_of_level {entry : Log.Entry} (other : entry.level ≠ .info) :
    showsFeedback entry.line = false := by
  obtain ⟨level, text⟩ := entry
  unfold showsFeedback
  rw [line_eq]
  cases level with
  | info => exact absurd rfl other
  | error | warn | debug | trace => simp [Log.Level.name, List.isPrefixOf]

theorem showsFeedback_feedbackLine (d : Octets) : showsFeedback (feedbackLine d) = true := by
  have text (source format kind : String) : showsFeedback ("info: rtcp feedback: source=" ++
      source ++ ", fmt=" ++ format ++ ", type=" ++ kind) = true := by
    simp [showsFeedback]
  exact text (toString (sourceOf d)) (toString (formatOf d)) _

section Lines

variable (limit : Log.Threshold) (logger : PacketLog.Logger)

@[simp] theorem feedbackLines_append (first last : List Happening) :
    feedbackLines limit logger (first ++ last) =
      feedbackLines limit logger first ++ feedbackLines limit logger last := by
  simp [feedbackLines, Log.written]

theorem feedbackLines_of_quiet {actions : List Connector.Action}
    (quiet : ∀ action ∈ actions, Quiet action) :
    feedbackLines limit logger (actions.map .acted) = [] := by
  unfold feedbackLines
  rw [List.filter_eq_nil_iff]
  intro line written
  -- The level stands in front of a line, so the level alone tells it apart.
  obtain ⟨entry, kept, rfl⟩ := List.mem_map.1 written
  obtain ⟨happening, happened, shown⟩ := List.mem_flatMap.1 (List.mem_filter.1 kept).1
  obtain ⟨action, member, rfl⟩ := List.mem_map.1 happened
  rw [showsFeedback_of_level (quiet action member logger entry shown)]
  exact Bool.false_ne_true

theorem feedbackLines_feedback {limit : Log.Threshold} (info : limit.enables .info = true)
    {d : Octets} {message : Feedback} (decoded : Feedback.decode d = some message) :
    feedbackLines limit logger [.noted (.feedback (.of message))] = [feedbackLine d] := by
  have level : (Note.feedback (.of message)).entry.level = .info := rfl
  have shown := showsFeedback_feedbackLine d
  rw [← entry_line decoded] at shown ⊢
  simp [feedbackLines, Log.written, Happening.entries, level, info, shown]

end Lines

/-! ## The listener -/

/-- The listener of a session is told of every message, and stays registered. -/
theorem handler_of_registered {hub : Dispatch.Hub} (registered : hub.registry = [reporter])
    (bytes : Octets) (source : Address) :
    (handler hub bytes source).1.registry = [reporter] ∧
      (handler hub bytes source).2 =
        (Feedback.decode bytes).toList.map fun message => .feedback (.of message) := by
  obtain ⟨registry, calls⟩ := hub
  obtain rfl : registry = [reporter] := registered
  cases decoded : Feedback.decode bytes with
  | none =>
      have answer : Dispatch.dispatch behaviour 0 1 bytes ⟨[reporter], calls⟩ =
          some (.ok none, ⟨[reporter], calls⟩, []) :=
        Dispatch.dispatch_silent 0 (.inr decoded)
      unfold handler
      rw [answer]
      exact ⟨rfl, rfl⟩
  | some message =>
      have answer : Dispatch.dispatch behaviour 0 1 bytes ⟨[reporter], calls⟩ =
          some (.ok (some message), ⟨[reporter], reporter :: calls⟩,
            [.called 0 reporter (.of message)]) := by
        rw [Dispatch.dispatch_heard 0 (List.cons_ne_nil reporter []) decoded]
        rfl
      unfold handler
      rw [answer]
      exact ⟨rfl, rfl⟩

/-! ## The loop -/

/-- What a receive that goes on or returns a packet does is quiet. -/
theorem quiet_of_taken {c d : Connector} {now : Tick} {loan : Loan} {arrival : Arrival}
    {progress : Connector.Progress} {actions : List Connector.Action}
    (taken : c.Taken now loan arrival progress d actions)
    (noError : ∀ e, progress ≠ .done (.error e)) : ∀ action ∈ actions, Quiet action := by
  cases taken with
  | delivered =>
      intro action member logger entry shown
      unfold Connector.recorded at member
      split at member
      · rw [List.mem_singleton.1 member] at shown
        cases logger with
        | lines =>
            rw [List.mem_singleton.1 shown]
            exact nofun
        | silent => cases shown
      · cases member
  | rejected =>
      intro action member logger entry shown
      obtain ⟨warning, -, rfl⟩ := List.mem_map.1 member
      rw [List.mem_singleton.1 shown]
      exact nofun
  | truncated =>
      intro action member logger entry shown
      rw [Connector.eq_of_mem_gated member] at shown
      rw [List.mem_singleton.1 shown]
      exact nofun
  | ended | overrun => exact absurd rfl (noError _)

theorem quiet_ask : Quiet .ask := by
  intro logger entry shown
  cases shown

/-- A control loop that waits on some line, with its listener. -/
structure Listens (line : Connector.Line) (l : Loop Dispatch.Hub) : Prop where
  registered : l.state.registry = [reporter]
  waits : ∃ c loan, l.Waits c loan ∧ c.line = line

/-- A line for control datagrams of at most `mtu` octets. -/
structure ForControl (line : Connector.Line) (mtu : Nat) : Prop where
  udp : line.transport = .udp
  size : line.poolSize = mtu + 1
  wanted : line.wanted = some .rtcp

section Feed

variable {l : Loop Dispatch.Hub} {c e : Connector} {loan : Loan} {now : Tick}
  {arrival : Arrival} {actions : List Connector.Action} (limit : Log.Threshold)
  (logger : PacketLog.Logger)

theorem listens_of_skip (registered : l.state.registry = [reporter]) (waits : l.Waits c loan)
    (taken : c.take now loan arrival = (.continue, e, actions)) :
    let fed := l.feed handler now arrival
    Listens c.line fed.1 ∧ feedbackLines limit logger fed.2 = [] := by
  have fate := Connector.taken_of_take now waits.capacity taken
  have quiet : ∀ action ∈ actions ++ [.ask], Quiet action := by
    intro action member
    rcases List.mem_append.1 member with done | asked
    · exact quiet_of_taken fate (by simp) action done
    · rw [List.mem_singleton.1 asked]
      exact quiet_ask
  obtain ⟨next, fed, state, waits_next⟩ := Loop.feed_of_skip handler waits taken
  rw [fed]
  constructor
  · constructor
    · rw [state, registered]
    · refine ⟨_, _, waits_next, ?_⟩
      rw [← fate.line]
      simp [Connector.line]
  · exact feedbackLines_of_quiet limit logger quiet

/-- Of a packet that is delivered, the message in it is reported, if there is one. -/
theorem listens_of_deliver (registered : l.state.registry = [reporter]) (waits : l.Waits c loan)
    {packet : Received} (taken : c.take now loan arrival = (.done (.ok packet), e, actions)) :
    let fed := l.feed handler now arrival
    Listens c.line fed.1 ∧ feedbackLines limit logger fed.2 =
      feedbackLines limit logger ((Feedback.decode packet.loan.window.bytes).toList.map
        fun message => .noted (.feedback (.of message))) := by
  have fate := Connector.taken_of_take now waits.capacity taken
  have quiet := feedbackLines_of_quiet limit logger (quiet_of_taken fate (by simp))
  have asks : ∀ action ∈ [.ask], Quiet action := by simp [quiet_ask]
  have asked : feedbackLines limit logger [.acted .ask] = [] :=
    feedbackLines_of_quiet limit logger asks
  obtain ⟨stays, notes⟩ := handler_of_registered registered packet.loan.window.bytes packet.source
  obtain ⟨next, fed, state, waits_next⟩ := Loop.feed_of_deliver handler waits taken
  rw [fed]
  constructor
  · constructor
    · rw [state, stays]
    · refine ⟨_, _, waits_next, ?_⟩
      rw [← fate.line]
      simp [Connector.line, Connector.recycle]
  · rw [notes, feedbackLines_append, feedbackLines_append, quiet, asked, List.nil_append,
      List.append_nil, List.map_map]
    rfl

end Feed

/-- A control loop writes one line about a datagram that carries feedback, and none about any
other, and is as ready for the next one as before. -/
theorem Listens.feed {line : Connector.Line} {l : Loop Dispatch.Hub} {mtu : Nat}
    {limit : Log.Threshold} (listens : Listens line l) (suited : ForControl line mtu)
    (info : limit.enables .info = true) (logger : PacketLog.Logger) (now : Tick) (d : Octets)
    (source : Address) :
    let fed := l.feed handler now (.packet d none source)
    Listens line fed.1 ∧ feedbackLines limit logger fed.2 =
      if IsFeedback d mtu then [feedbackLine d] else [] := by
  obtain ⟨registered, c, loan, waits, rfl⟩ := listens
  obtain ⟨udp, size, wanted⟩ := suited
  have capacity : loan.window.capacity = mtu + 1 := waits.capacity.trans size
  obtain ⟨f, filter, wanted⟩ := Option.map_eq_some_iff.1 wanted
  -- The size decides first, then the filter; only what both let through is decoded.
  rcases Nat.lt_or_ge mtu d.length with long | fits
  · have other : ¬ IsFeedback d mtu := fun carries => Nat.not_le.2 long carries.fits
    have cut : loan.window.capacity ≤ d.length := by omega
    have fate : c.fate loan (.packet d none source) = _ := Connector.fate_of_long udp cut
    rw [if_neg other]
    exact listens_of_skip limit logger registered waits
      (Connector.take_truncated now waits.capacity fate)
  · have short : d.length < loan.window.capacity := by omega
    have inside := Nat.le_of_lt short
    have fate : c.fate loan (.packet d none source) = _ := Connector.fate_of_short udp short
    rcases c.screened_cases d with delivered | rejected
    · have admitted : Packet.admits .rtcp d = true :=
        wanted ▸ Connector.screened_eq_delivered_iff.1 delivered f filter
      obtain ⟨window, -, -, -, bytes, taken⟩ :=
        Connector.take_delivered now waits.capacity (fate.trans delivered)
      rw [Connector.reported_of_fits inside, Connector.seen_eq_self inside] at bytes
      have reported := listens_of_deliver limit logger registered waits taken
      simp only [bytes] at reported
      cases decoded : Feedback.decode d with
      | none =>
          have other : ¬ IsFeedback d mtu := by
            intro carries
            have readable := (isFeedback_iff.1 carries).2.2
            rw [decoded] at readable
            cases readable
          rw [decoded] at reported
          rw [if_neg other]
          exact reported
      | some message =>
          have carries : IsFeedback d mtu :=
            isFeedback_iff.2 ⟨fits, admitted, Option.isSome_iff_exists.2 ⟨message, decoded⟩⟩
          have line := feedbackLines_feedback logger info decoded
          rw [decoded] at reported
          rw [if_pos carries, ← line]
          exact reported
    · obtain ⟨g, found, refused⟩ := Connector.screened_eq_rejected_iff.1 rejected
      have other : ¬ IsFeedback d mtu := by
        intro carries
        have admitted := (isFeedback_iff.1 carries).2.1
        cases filter.symm.trans found
        rw [wanted, admitted] at refused
        cases refused
      obtain ⟨window, _, -, -, -, -, taken⟩ :=
        Connector.take_rejected now waits.capacity (fate.trans rejected)
      rw [if_neg other]
      exact listens_of_skip limit logger registered waits taken

/-- Datagrams as a loop takes them, each at its instant and from its source. -/
def arrivals (datagrams : List (Tick × Octets × Address)) : List (Tick × Arrival) :=
  datagrams.map fun (now, d, source) => (now, .packet d none source)

/-- The lines about feedback that are written of a history are those of its datagrams that
carry feedback. -/
theorem Listens.run {line : Connector.Line} {mtu : Nat} {limit : Log.Threshold}
    (suited : ForControl line mtu) (info : limit.enables .info = true)
    (logger : PacketLog.Logger) (datagrams : List (Tick × Octets × Address))
    {l : Loop Dispatch.Hub} (listens : Listens line l) :
    let ran := l.run handler (arrivals datagrams)
    Listens line ran.1 ∧ feedbackLines limit logger ran.2 =
      ((datagrams.map fun (_, d, _) => d).filter fun d => IsFeedback d mtu).map feedbackLine := by
  induction datagrams generalizing l with
  | nil => exact ⟨listens, rfl⟩
  | cons first rest ih =>
      obtain ⟨now, d, source⟩ := first
      obtain ⟨listens_next, here⟩ := listens.feed suited info logger now d source
      obtain ⟨listens_last, later⟩ := ih listens_next
      refine ⟨listens_last, ?_⟩
      show feedbackLines limit logger ((l.feed handler now (.packet d none source)).2 ++
        ((l.feed handler now (.packet d none source)).1.run handler (arrivals rest)).2) = _
      rw [feedbackLines_append, here, later]
      by_cases carries : IsFeedback d mtu <;> simp [carries]

/-! ## A session -/

/-- The control loop of a new session is a loop on what is configured for its stream. -/
theorem control_of_start {host : Host} {peers : Streams (Option Peer)} {config : Config}
    {limit : Log.Threshold} {s : Session}
    (started : (Session.start host peers config limit).1 = .ok s) :
    ∃ address, s.control =
      (Loop.start handler 0 (Channel.ofConfig config .rtcp address true 0) hub).1 := by
  obtain ⟨-, address, -, control⟩ := loops_of_start started
  exact ⟨address, control⟩

/-- A control loop that has begun listens on the line of its channel. -/
theorem listens_start (config : Config) (address : Address) :
    let channel := Channel.ofConfig config .rtcp address true 0
    Listens channel.connector.line (Loop.start handler 0 channel hub).1 := by
  intro channel
  obtain ⟨state, waits⟩ := Loop.waits_start handler config .rtcp address true 0 hub
  exact ⟨congrArg Dispatch.Hub.registry state, waits⟩

/-- **Of the datagrams that the control loop of a session takes, those that carry feedback are
reported, in order and with one line each, and no datagram ends the loop.** -/
theorem feedback_reported {host : Host} {peers : Streams (Option Peer)} {config : Config}
    {limit : Log.Threshold} {s : Session}
    (started : (Session.start host peers config limit).1 = .ok s)
    (udp : (config.interface .rtcp).transport = .udp) (info : limit.enables .info = true)
    (datagrams : List (Tick × Octets × Address)) :
    let mtu := (config.interface .rtcp).mtu
    let ran := s.control.run handler (arrivals datagrams)
    ran.1.outcome = none ∧
      (Log.written limit (s.lines ran.2)).filter showsFeedback =
        ((datagrams.map fun (_, d, _) => d).filter fun d => IsFeedback d mtu).map
          feedbackLine := by
  intro mtu ran
  obtain ⟨address, control⟩ := control_of_start started
  let line := (Channel.ofConfig config .rtcp address true 0).connector.line
  have suited : ForControl line mtu := ⟨udp, rfl, rfl⟩
  have listens : Listens line s.control := by
    rw [control]
    exact listens_start config address
  obtain ⟨⟨-, c, loan, waits, -⟩, lines⟩ :=
    Listens.run suited info s.logger datagrams listens
  exact ⟨waits.running, lines⟩

/-- A session that takes control datagrams of at most twenty octets. -/
def exampleConfig : Config where
  rtcp := .udp (.v4 ⟨127, 0, 0, 1⟩ 5005) none 20 none

/-- A picture loss indication. -/
def exampleLoss : Octets :=
  [0x81, 206, 0, 2, 0, 0, 0, 1, 0, 0, 0, 7]

/-- A full intra request. -/
def exampleRequest : Octets :=
  [0x84, 206, 0, 4, 0, 0, 0, 1, 0, 0, 0, 0, 0, 0, 1, 0, 9, 0, 0, 0]

/-- Two messages, and between them nothing, the requests without their last octet and with one
octet more, a sender report and a message of another version. -/
theorem feedback_reported_of_two :
    ∃ s, (Session.start { routed := true } ⟨none, none⟩ exampleConfig (some .info)).1 = .ok s ∧
      let ran := s.control.run handler (arrivals (
        [exampleRequest, [], exampleRequest.dropLast, exampleRequest ++ [0],
          [0x80, 200, 0, 2, 0, 0, 0, 1, 0, 0, 0, 7], 0x41 :: exampleLoss.tail, exampleLoss].map
          fun d => (0, d, Connector.exampleAddress)))
      ran.1.outcome = none ∧
        (Log.written (some .info) (s.lines ran.2)).filter showsFeedback =
          ["info: rtcp feedback: source=256, fmt=4, type=PayloadSpecific",
            "info: rtcp feedback: source=7, fmt=1, type=PayloadSpecific"] := by
  obtain ⟨s, started⟩ : ∃ s, (Session.start { routed := true } ⟨none, none⟩ exampleConfig
      (some .info)).1 = .ok s := ⟨_, rfl⟩
  obtain ⟨running, lines⟩ := feedback_reported started rfl rfl (
    [exampleRequest, [], exampleRequest.dropLast, exampleRequest ++ [0],
      [0x80, 200, 0, 2, 0, 0, 0, 1, 0, 0, 0, 7], 0x41 :: exampleLoss.tail, exampleLoss].map
      fun d => (0, d, Connector.exampleAddress))
  refine ⟨s, started, running, lines.trans ?_⟩
  decide

end MediaTransport.Session.Control
