/-
# MediaTransport.Proofs.Filter.Screening -- what a filter lets through, counts and reports

A filter judges a packet by its class and the protocol that it wants, in one table of both.
The table says what `Packet.admits` says (`accept_eq_admits`): a packet that is admitted
passes and leaves no trace (`accept_admitted`), every other is counted under its class and
asked for a permit once (`accept_dropped`).

`Screening` is a filter on a clock that moves forward, with all that it has answered and
written.  What should have come of the packets is said without the filter: how many of them
went astray and how many were malformed (`astray`, `malformed`), and which warnings a limiter
permits that is asked at the times of the dropped packets and at no other (`reports`,
`permitted`).  Each packet keeps the two together (`Screening.Faithful.step`).

A packet is admitted by one of the two protocols or malformed, and never two of these
(`admitted_or_malformed`).  So two filters for the two streams share out the packets between
them, and what the one has accepted went astray to the other (`streams_screened`).
-/
import Mathlib.Data.List.Infix
import Mathlib.Data.UInt
import MediaTransport.Filter
import MediaTransport.Proofs.Limiter.Ideal

namespace MediaTransport

set_option autoImplicit false

/-! ## A limiter that is called again and again -/

namespace Limiter

/-- A limiter after calls at instants, counted from where the clock read `start`. -/
def after (start : Tick) (l : Limiter) (times : List Nat) : Limiter :=
  times.foldl (fun l t => (l.shouldRun (reading start t)).2) l

theorem after_concat (start : Tick) (l : Limiter) (times : List Nat) (t : Nat) :
    after start l (times ++ [t]) = ((after start l times).shouldRun (reading start t)).2 :=
  List.foldl_concat ..

theorem answers_concat (start : Tick) (l : Limiter) (times : List Nat) (t : Nat) :
    answers start l (times ++ [t]) =
      answers start l times ++ [((after start l times).shouldRun (reading start t)).1] := by
  induction times generalizing l with
  | nil => rfl
  | cons first rest ih => exact congrArg _ (ih _)

theorem length_answers (start : Tick) (l : Limiter) (times : List Nat) :
    (answers start l times).length = times.length := by
  induction times generalizing l with
  | nil => rfl
  | cons first rest ih => exact congrArg (· + 1) (ih _)

end Limiter

/-- The protocol of the other stream. -/
def Protocol.other : Protocol → Protocol
  | .rtp => .rtcp
  | .rtcp => .rtp

/-- Whether a packet is of no protocol. -/
def Packet.isMalformed (bytes : Octets) : Bool :=
  match Packet.classify bytes with
  | .rejected _ => true
  | _ => false

namespace Filter

/-! ## One packet -/

/-- All packets that a filter has dropped. -/
def drops (f : Filter) : UInt64 :=
  f.mismatched + f.rejected

theorem drops_count (f : Filter) (found : Packet.Class) : (f.count found).drops = f.drops + 1 := by
  cases found with
  | rejected flaw => simp [count, drops, UInt64.add_assoc]
  | _ => simp only [count, drops, UInt64.add_assoc, UInt64.add_comm 1]

theorem wanted_count (f : Filter) (found : Packet.Class) : (f.count found).wanted = f.wanted := by
  cases found <;> rfl

theorem limiter_count (f : Filter) (found : Packet.Class) :
    (f.count found).limiter = f.limiter := by
  cases found <;> rfl

section Accept

variable {f : Filter} {now : Tick} {bytes : Octets}

theorem accept_admitted (admitted : Packet.admits f.wanted bytes = true) :
    f.accept now bytes = (true, f, none) := by
  have found : Packet.classify bytes = Packet.Class.ofProtocol f.wanted := by
    simpa [Packet.admits] using admitted
  unfold accept
  rw [found]
  cases f.wanted <;> rfl

/-- A packet that is dropped is counted, and the limiter is asked whether to report it. -/
theorem accept_dropped (now : Tick) (dropped : Packet.admits f.wanted bytes = false) :
    let counted := f.count (Packet.classify bytes)
    let called := f.limiter.shouldRun now
    f.accept now bytes =
      (false, { counted with limiter := called.2 },
        if called.1 then
          some ⟨f.wanted, Packet.classify bytes, bytes.length, counted.mismatched,
            counted.rejected⟩
        else none) := by
  have found : Packet.classify bytes ≠ Packet.Class.ofProtocol f.wanted := by
    simpa [Packet.admits] using dropped
  unfold accept
  generalize Packet.classify bytes = kind at found ⊢
  -- The table has one entry for each class and each protocol.
  cases kind <;> cases wanted : f.wanted <;> simp_all [Packet.Class.ofProtocol, limiter_count]

/-- The table of the filter agrees with the classifier. -/
theorem accept_eq_admits (f : Filter) (now : Tick) (bytes : Octets) :
    (f.accept now bytes).1 = Packet.admits f.wanted bytes := by
  cases admitted : Packet.admits f.wanted bytes with
  | true => rw [accept_admitted admitted]
  | false => rw [accept_dropped now admitted]

/-- A packet that is not let through is counted once. -/
theorem accept_refused (now : Tick) (refused : Packet.admits f.wanted bytes = false) :
    (f.accept now bytes).1 = false ∧ (f.accept now bytes).2.1.wanted = f.wanted ∧
      (f.accept now bytes).2.1.drops = f.drops + 1 := by
  rw [accept_dropped now refused]
  exact ⟨rfl, f.wanted_count _, f.drops_count _⟩

end Accept

/-! ## The packets without the filter -/

/-- A packet that is put to a filter. -/
structure Offer where
  /-- Milliseconds since the filter was made. -/
  time : Nat
  bytes : Octets

/-- How many packets belong on the other stream. -/
def astray (wanted : Protocol) (packets : List Octets) : Nat :=
  packets.countP (Packet.admits wanted.other)

/-- How many packets are of no protocol. -/
def malformed (packets : List Octets) : Nat :=
  packets.countP Packet.isMalformed

/-- When the last of some packets is dropped, and the warning that this is worth. -/
def report? (wanted : Protocol) (upTo : List Offer) : Option (Nat × Warning) :=
  (upTo.getLast?.filter fun last => !Packet.admits wanted last.bytes).map fun last =>
    let packets := upTo.map Offer.bytes
    (last.time,
      ⟨wanted, Packet.classify last.bytes, last.bytes.length, .ofNat (astray wanted packets),
        .ofNat (malformed packets)⟩)

/-- One report for each packet that is dropped. -/
def reports (wanted : Protocol) (offered : List Offer) : List (Nat × Warning) :=
  offered.inits.filterMap (report? wanted)

/-- The warnings that a limiter permits if it is asked about nothing else. -/
def permitted (begun : Tick) (limiter : Limiter) (reports : List (Nat × Warning)) :
    List Warning :=
  ((limiter.answers begun (reports.map Prod.fst)).zip reports).filterMap fun (yes, report) =>
    if yes then some report.2 else none

/-- Every packet is admitted by one of the two protocols or malformed, and only one of
these. -/
theorem admitted_or_malformed (wanted : Protocol) (bytes : Octets) :
    (Packet.admits wanted bytes).toNat + (Packet.admits wanted.other bytes).toNat +
      (Packet.isMalformed bytes).toNat = 1 := by
  unfold Packet.admits Packet.isMalformed
  generalize Packet.classify bytes = found
  cases wanted <;> cases found <;> rfl

theorem countP_concat (p : Octets → Bool) (packets : List Octets) (bytes : Octets) :
    (packets ++ [bytes]).countP p = packets.countP p + (p bytes).toNat := by
  rw [List.countP_append, List.countP_singleton]
  cases p bytes <;> rfl

theorem astray_concat (wanted : Protocol) (packets : List Octets) (bytes : Octets) :
    astray wanted (packets ++ [bytes]) =
      astray wanted packets + (Packet.admits wanted.other bytes).toNat :=
  countP_concat ..

theorem malformed_concat (packets : List Octets) (bytes : Octets) :
    malformed (packets ++ [bytes]) = malformed packets + (Packet.isMalformed bytes).toNat :=
  countP_concat ..

/-- A dropped packet is counted as what it is. -/
theorem counters_count {f : Filter} {bytes : Octets}
    (dropped : Packet.admits f.wanted bytes = false) :
    (f.count (Packet.classify bytes)).mismatched =
        f.mismatched + .ofNat (Packet.admits f.wanted.other bytes).toNat ∧
      (f.count (Packet.classify bytes)).rejected =
        f.rejected + .ofNat (Packet.isMalformed bytes).toNat := by
  unfold Packet.admits Packet.isMalformed at *
  generalize Packet.classify bytes = found at dropped ⊢
  cases wanted : f.wanted <;> cases found <;>
    simp_all [count, Protocol.other, Packet.Class.ofProtocol] <;> rfl

/-- So the two streams share out the packets that are not malformed. -/
theorem countP_admits (wanted : Protocol) (packets : List Octets) :
    packets.countP (Packet.admits wanted) + astray wanted packets + malformed packets =
      packets.length := by
  induction packets using List.reverseRecOn with
  | nil => rfl
  | append_singleton packets bytes ih =>
      have one := admitted_or_malformed wanted bytes
      rw [countP_concat, astray_concat, malformed_concat, List.length_append,
        List.length_singleton]
      omega

theorem report?_concat (wanted : Protocol) (offered : List Offer) (last : Offer) :
    report? wanted (offered ++ [last]) =
      if Packet.admits wanted last.bytes then none
      else
        let packets := offered.map Offer.bytes ++ [last.bytes]
        some (last.time,
          ⟨wanted, Packet.classify last.bytes, last.bytes.length, .ofNat (astray wanted packets),
            .ofNat (malformed packets)⟩) := by
  simp only [report?, List.getLast?_concat, List.map_append, List.map_cons, List.map_nil]
  cases admitted : Packet.admits wanted last.bytes <;> simp [admitted]

theorem reports_concat (wanted : Protocol) (offered : List Offer) (last : Offer) :
    reports wanted (offered ++ [last]) =
      reports wanted offered ++ (report? wanted (offered ++ [last])).toList := by
  rw [reports, List.inits_append, List.filterMap_append, reports]
  cases found : report? wanted (offered ++ [last]) <;> simp [found]

theorem permitted_concat (begun : Tick) (limiter : Limiter) (reports : List (Nat × Warning))
    (report : Nat × Warning) :
    permitted begun limiter (reports ++ [report]) =
      permitted begun limiter reports ++
        if ((limiter.after begun (reports.map Prod.fst)).shouldRun
          (Limiter.reading begun report.1)).1 then [report.2] else [] := by
  have paired : (limiter.answers begun (reports.map Prod.fst)).length = reports.length := by
    rw [Limiter.length_answers, List.length_map]
  simp only [permitted, List.map_append, List.map_cons, List.map_nil, Limiter.answers_concat]
  rw [List.zip_append paired, List.filterMap_append]
  congr 1
  simp only [List.zip_cons_cons, List.zip_nil_left, List.filterMap_cons, List.filterMap_nil]
  split <;> rename_i answer <;> split at answer <;> simp_all

/-! ## Runs -/

/-- What may happen to a filter and its clock. -/
inductive Op where
  | advance (milliseconds : Nat)
  | packet (bytes : Octets)

/-- The packets that are put to a filter from an instant on. -/
def offers : Nat → List Op → List Offer
  | _, [] => []
  | now, .advance milliseconds :: rest => offers (now + milliseconds) rest
  | now, .packet bytes :: rest => ⟨now, bytes⟩ :: offers now rest

def packets (ops : List Op) : List Octets :=
  (offers 0 ops).map Offer.bytes

/-- A filter on its clock, with what it has said about packets. -/
structure Screening where
  filter : Filter
  /-- What the clock read when the filter was made. -/
  begun : Tick
  elapsed : Nat := 0
  verdicts : List Bool := []
  warnings : List Warning := []

namespace Screening

/-- A new filter with a limiter. -/
def start (wanted : Protocol) (limiter : Limiter) (begun : Tick) : Screening where
  filter := { wanted, limiter }
  begun := begun

def step (s : Screening) : Op → Screening
  | .advance milliseconds => { s with elapsed := s.elapsed + milliseconds }
  | .packet bytes =>
    let (verdict, filter, warning) := s.filter.accept (Limiter.reading s.begun s.elapsed) bytes
    { s with
      filter
      verdicts := s.verdicts ++ [verdict]
      warnings := s.warnings ++ warning.toList }

def run (s : Screening) (ops : List Op) : Screening :=
  ops.foldl step s

/-- All is as it should be after some packets. -/
structure Faithful (wanted : Protocol) (limiter : Limiter) (begun : Tick)
    (offered : List Offer) (s : Screening) : Prop where
  begins : s.begun = begun
  wants : s.filter.wanted = wanted
  /-- The verdicts are those of the classifier. -/
  verdicts : s.verdicts = offered.map fun offer => Packet.admits wanted offer.bytes
  /-- Well-formed packets of the other protocol are counted, up to wrapping around. -/
  mismatched : s.filter.mismatched = .ofNat (astray wanted (offered.map Offer.bytes))
  /-- Malformed packets are counted, up to wrapping around. -/
  rejected : s.filter.rejected = .ofNat (malformed (offered.map Offer.bytes))
  /-- The limiter has been called for every dropped packet, and for nothing else. -/
  called : s.filter.limiter = limiter.after begun ((reports wanted offered).map Prod.fst)
  /-- What is written is what the limiter permits. -/
  warnings : s.warnings = permitted begun limiter (reports wanted offered)

namespace Faithful

variable {wanted : Protocol} {limiter : Limiter} {begun : Tick} {offered : List Offer}
  {s : Screening}

theorem start (wanted : Protocol) (limiter : Limiter) (begun : Tick) :
    Faithful wanted limiter begun [] (start wanted limiter begun) :=
  ⟨rfl, rfl, rfl, rfl, rfl, rfl, rfl⟩

theorem advance (faithful : Faithful wanted limiter begun offered s) (milliseconds : Nat) :
    Faithful wanted limiter begun offered (s.step (.advance milliseconds)) :=
  ⟨faithful.begins, faithful.wants, faithful.verdicts, faithful.mismatched, faithful.rejected,
    faithful.called, faithful.warnings⟩

/-- An admitted packet adds nothing to what is counted and reported. -/
theorem packet_admitted (faithful : Faithful wanted limiter begun offered s) {bytes : Octets}
    (admitted : Packet.admits wanted bytes = true) :
    Faithful wanted limiter begun (offered ++ [⟨s.elapsed, bytes⟩]) (s.step (.packet bytes)) := by
  have passed : s.step (.packet bytes) = { s with verdicts := s.verdicts ++ [true] } := by
    simp only [step, accept_admitted (faithful.wants ▸ admitted)]
    simp
  obtain ⟨not_astray, not_malformed⟩ : (Packet.admits wanted.other bytes).toNat = 0 ∧
      (Packet.isMalformed bytes).toNat = 0 := by
    have none_else := admitted_or_malformed wanted bytes
    simp only [admitted, Bool.toNat_true] at none_else
    omega
  have silent : reports wanted (offered ++ [⟨s.elapsed, bytes⟩]) = reports wanted offered := by
    rw [reports_concat, report?_concat, if_pos admitted]
    exact List.append_nil _
  rw [passed]
  refine ⟨faithful.begins, faithful.wants, ?_, ?_, ?_, ?_, ?_⟩
  · simp [faithful.verdicts, admitted]
  · rw [List.map_append, List.map_singleton, astray_concat, not_astray]
    exact faithful.mismatched
  · rw [List.map_append, List.map_singleton, malformed_concat, not_malformed]
    exact faithful.rejected
  · rw [silent]
    exact faithful.called
  · rw [silent]
    exact faithful.warnings

/-- A dropped packet is counted under its class and calls the limiter once. -/
theorem packet_dropped (faithful : Faithful wanted limiter begun offered s) {bytes : Octets}
    (dropped : Packet.admits wanted bytes = false) :
    Faithful wanted limiter begun (offered ++ [⟨s.elapsed, bytes⟩]) (s.step (.packet bytes)) := by
  have not_admitted : ¬ Packet.admits wanted bytes = true := by simp [dropped]
  have accepted := accept_dropped (Limiter.reading s.begun s.elapsed) (faithful.wants ▸ dropped)
  obtain ⟨mismatched, rejected⟩ := counters_count (faithful.wants ▸ dropped)
  rw [faithful.wants, faithful.mismatched, ← UInt64.ofNat_add] at mismatched
  rw [faithful.rejected, ← UInt64.ofNat_add] at rejected
  have reported : reports wanted (offered ++ [⟨s.elapsed, bytes⟩]) =
      reports wanted offered ++ [(s.elapsed,
        ⟨wanted, Packet.classify bytes, bytes.length,
          (s.filter.count (Packet.classify bytes)).mismatched,
          (s.filter.count (Packet.classify bytes)).rejected⟩)] := by
    rw [reports_concat, report?_concat, if_neg not_admitted, mismatched, rejected]
    simp only [astray_concat, malformed_concat, Option.toList_some]
  simp only [Screening.step, accepted]
  refine ⟨faithful.begins, (wanted_count _ _).trans faithful.wants, ?_, ?_, ?_, ?_, ?_⟩
  · simp [faithful.verdicts, dropped]
  · rw [List.map_append, List.map_singleton, astray_concat]
    exact mismatched
  · rw [List.map_append, List.map_singleton, malformed_concat]
    exact rejected
  · rw [reported, List.map_append, List.map_singleton, Limiter.after_concat, ← faithful.called,
      ← faithful.begins]
  · rw [reported, permitted_concat, ← faithful.called, ← faithful.begins]
    show s.warnings ++ _ = _
    rw [faithful.warnings, ← faithful.begins, faithful.wants]
    split <;> rfl

theorem step (faithful : Faithful wanted limiter begun offered s) (op : Op) :
    Faithful wanted limiter begun (offered ++ offers s.elapsed [op]) (s.step op) := by
  cases op with
  | advance milliseconds => simpa [offers] using faithful.advance milliseconds
  | packet bytes =>
      cases admitted : Packet.admits wanted bytes with
      | true => exact faithful.packet_admitted admitted
      | false => exact faithful.packet_dropped admitted

theorem run (faithful : Faithful wanted limiter begun offered s) (ops : List Op) :
    Faithful wanted limiter begun (offered ++ offers s.elapsed ops) (s.run ops) := by
  induction ops generalizing s offered with
  | nil => simpa [offers, Screening.run] using faithful
  | cons op rest ih =>
      have later := ih (faithful.step op)
      rw [List.append_assoc] at later
      cases op with
      | advance milliseconds => exact later
      | packet bytes => exact later

/-- A new filter is faithful to whatever it is given. -/
theorem of_start (wanted : Protocol) (limiter : Limiter) (begun : Tick) (ops : List Op) :
    Faithful wanted limiter begun (offers 0 ops)
      ((Screening.start wanted limiter begun).run ops) :=
  (start wanted limiter begun).run ops

theorem count_verdicts (faithful : Faithful wanted limiter begun offered s) :
    s.verdicts.count true = (offered.map Offer.bytes).countP (Packet.admits wanted) := by
  rw [faithful.verdicts, List.count_eq_countP, List.countP_map, List.countP_map]
  exact List.countP_congr fun offer _ => by simp

end Faithful

/-! ## Two streams -/

section Streams

variable (limiter otherLimiter : Limiter) (begun otherBegun : Tick) {ops others : List Op}

/-- **A filter judges as the classifier does, counts every packet that it drops, and writes the
warnings that a limiter alone permits at those times; of packets that go through a filter for
either protocol, each is accepted by one of the two or rejected by both.** -/
theorem streams_screened (same : packets others = packets ops) :
    (∀ (f : Filter) (now : Tick) (bytes : Octets),
      (f.accept now bytes).1 = Packet.admits f.wanted bytes ∧
        (Packet.admits f.wanted bytes = true → f.accept now bytes = (true, f, none))) ∧
    (∀ wanted, Faithful wanted limiter begun (offers 0 ops)
      ((start wanted limiter begun).run ops)) ∧
    let media := (start .rtp limiter begun).run ops
    let control := (start .rtcp otherLimiter otherBegun).run others
    media.filter.rejected = control.filter.rejected ∧
      media.filter.mismatched = .ofNat (control.verdicts.count true) ∧
      control.filter.mismatched = .ofNat (media.verdicts.count true) ∧
      media.verdicts.count true + control.verdicts.count true + malformed (packets ops) =
        (packets ops).length := by
  refine ⟨fun f now bytes => ⟨f.accept_eq_admits now bytes, accept_admitted⟩,
    fun wanted => .of_start wanted limiter begun ops, ?_⟩
  intro media control
  have forMedia := Faithful.of_start .rtp limiter begun ops
  have forControl := Faithful.of_start .rtcp otherLimiter otherBegun others
  have accepted := forControl.count_verdicts
  have astray_control := forControl.mismatched
  have malformed_control := forControl.rejected
  change (offers 0 others).map Offer.bytes = (offers 0 ops).map Offer.bytes at same
  rw [same] at accepted astray_control malformed_control
  refine ⟨forMedia.rejected.trans malformed_control.symm, ?_, ?_, ?_⟩
  · rw [accepted]
    exact forMedia.mismatched
  · rw [forMedia.count_verdicts]
    exact astray_control
  · rw [accepted, forMedia.count_verdicts]
    exact countP_admits .rtp (packets ops)

/-- Packets of either protocol, and two that are malformed. -/
def mixed : List Op :=
  [.packet [0x80, 96, 0, 1], .packet [0x81, 206, 0, 2], .advance 60, .packet [0x40, 200, 0, 6],
    .advance 41, .packet [0x80, 200], .packet [0x80, 97, 0, 2]]

/-- The same packets at other times. -/
def mixedLater : List Op :=
  [.packet [0x80, 96, 0, 1], .packet [0x81, 206, 0, 2], .packet [0x40, 200, 0, 6],
    .packet [0x80, 200], .advance 5, .packet [0x80, 97, 0, 2]]

/-- The clock of the one filter wraps between two of its warnings. -/
theorem streams_screened_of_mixed :
    let media := (start .rtp (Limiter.start 100 4294967245) 4294967245).run mixed
    let control := (start .rtcp (Limiter.start 0 7) 7).run mixedLater
    packets mixedLater = packets mixed ∧
      media.warnings.map (fun w => (w.mismatched, w.rejected)) = [(1, 0), (1, 2)] ∧
      media.filter.rejected = control.filter.rejected ∧
      media.verdicts.count true + control.verdicts.count true + malformed (packets mixed) =
        (packets mixed).length := by
  have same : packets mixedLater = packets mixed := by decide
  obtain ⟨-, -, rejected, -, -, shared⟩ :=
    streams_screened (Limiter.start 100 4294967245) (Limiter.start 0 7) 4294967245 7 same
  exact ⟨same, by decide, rejected, shared⟩

end Streams

end Screening

end Filter

end MediaTransport
