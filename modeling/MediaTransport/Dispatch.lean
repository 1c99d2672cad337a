/-
# MediaTransport.Dispatch -- handing feedback to registered listeners

Listeners are known by name and registered in order, each at most once.  A dispatch
decodes a packet and calls the listeners that were registered when it began, in
order, up to the first one that fails.

A listener may use the dispatcher while it is being called: it may add and remove
listeners and dispatch again.  What it does is a `Reaction`, a tree whose branches
are the answers it gets, so a listener may depend on them in any way.  A listener
whose every call dispatches again would never return; `dispatch` therefore takes
the number of dispatches that may be open at once and answers `none` beyond it.

`Moment`s record what happened, each with the nesting of the dispatch it belongs
to: the calls of one dispatch are those at its own nesting.
-/
import MediaTransport.Packet.Feedback

namespace MediaTransport.Dispatch

set_option autoImplicit false

open Packet (Feedback FeedbackKind)

/-- The name that identifies a listener. -/
abbrev Name := String

/-- What a listener gets to see of a message. -/
structure Event where
  /-- The media source that the message is about. -/
  source : UInt32
  format : UInt8
  kind : FeedbackKind
  deriving DecidableEq, Repr

def Event.of (message : Feedback) : Event :=
  ⟨message.source, message.format, message.kind⟩

/-! ## The registry -/

/-- The registered listeners, the earliest first. -/
abbrev Registry := List Name

namespace Registry

/-- Registers a listener behind all others; says whether it was not registered. -/
def add (r : Registry) (listener : Name) : Bool × Registry :=
  if r.contains listener then (false, r) else (true, r ++ [listener])

/-- Takes a listener out; says whether it was registered, which shows in the length. -/
def remove (r : Registry) (listener : Name) : Bool × Registry :=
  let kept := r.filter (· != listener)
  (kept.length != r.length, kept)

end Registry

/-! ## Listeners -/

/-- What a dispatch answers: the failure of a listener, or the message that all
listeners have seen, if there was one. -/
abbrev Outcome := Except String (Option Feedback)

/-- What a listener does when it is called. -/
inductive Reaction where
  | finish (failure : Option String)
  | add (listener : Name) (next : Bool → Reaction)
  | remove (listener : Name) (next : Bool → Reaction)
  | dispatch (bytes : Octets) (next : Outcome → Reaction)

/-- What each listener does, by how often it was called before and by the event. -/
abbrev Behaviour := Name → Nat → Event → Reaction

/-- What the dispatcher answered to a listener. -/
inductive Answer where
  | changed (done : Bool)
  | dispatched (outcome : Outcome)

/-- Something that happened during a dispatch. -/
inductive Moment where
  | called (nesting : Nat) (listener : Name) (event : Event)
  | answered (nesting : Nat) (listener : Name) (answer : Answer)

/-- What a dispatcher and its clones share: the listeners, and the calls that each of them has
had. -/
structure Hub where
  registry : Registry := []
  /-- The listeners called so far, once for every call. -/
  calls : List Name := []

/-- What an activity leaves behind: its result, the hub and what happened. -/
abbrev Run (α : Type) := Option (α × Hub × List Moment)

/-- Follows a reaction to its end; `nested` carries out dispatches. -/
def follow (nested : Octets → Hub → Run Outcome) (nesting : Nat) (listener : Name) :
    Reaction → Hub → Run (Option String)
  | .finish failure, hub => some (failure, hub, [])
  | .add other next, hub =>
    let (done, registry) := hub.registry.add other
    (follow nested nesting listener (next done) { hub with registry }).map
      fun (failure, hub, moments) =>
        (failure, hub, .answered nesting listener (.changed done) :: moments)
  | .remove other next, hub =>
    let (done, registry) := hub.registry.remove other
    (follow nested nesting listener (next done) { hub with registry }).map
      fun (failure, hub, moments) =>
        (failure, hub, .answered nesting listener (.changed done) :: moments)
  | .dispatch bytes next, hub =>
    (nested bytes hub).bind fun (outcome, hub, inner) =>
      (follow nested nesting listener (next outcome) hub).map
        fun (failure, hub, moments) =>
          (failure, hub,
            inner ++ .answered nesting listener (.dispatched outcome) :: moments)

/-- Calls listeners in order, up to the first one that fails. -/
def notify (behaviour : Behaviour) (nested : Octets → Hub → Run Outcome)
    (nesting : Nat) (event : Event) : List Name → Hub → Run (Option String)
  | [], hub => some (none, hub, [])
  | listener :: others, hub =>
    let reaction := behaviour listener (hub.calls.count listener) event
    let entered := { hub with calls := listener :: hub.calls }
    (follow nested nesting listener reaction entered).bind
      fun (failure, hub, moments) =>
        let moments := .called nesting listener event :: moments
        match failure with
        | some _ => some (failure, hub, moments)
        | none =>
          (notify behaviour nested nesting event others hub).map
            fun (failure, hub, later) => (failure, hub, moments ++ later)

/-- Decodes a packet and calls the listeners registered at this moment.  Nothing is
decoded while no listener is registered.  At most `depth` dispatches may be open at
once. -/
def dispatch (behaviour : Behaviour) (nesting : Nat) :
    (depth : Nat) → Octets → Hub → Run Outcome
  | 0, _, _ => none
  | depth + 1, bytes, hub =>
    if hub.registry.isEmpty then some (.ok none, hub, [])
    else
      match Feedback.decode bytes with
      | none => some (.ok none, hub, [])
      | some message =>
        (notify behaviour (dispatch behaviour (nesting + 1) depth) nesting
            (Event.of message) hub.registry hub).map
          fun (failure, hub, moments) =>
            match failure with
            | some text => (.error text, hub, moments)
            | none => (.ok (some message), hub, moments)

/-! ## Scripted listeners -/

/-- A use of the dispatcher, from outside or by a listener. -/
inductive Request where
  | add (listener : Name)
  | remove (listener : Name)
  | dispatch (bytes : Octets)
  deriving DecidableEq, Repr

/-- A listener that makes requests when it is called for the first time and fails
from a given call on. -/
structure Script where
  onFirst : List Request := []
  failure : Option String := none
  failFrom : Nat := 0

namespace Script

/-- What a scripted listener does at its call with a given number. -/
def reaction (s : Script) (call : Nat) : Reaction :=
  let last := Reaction.finish (if s.failFrom ≤ call then s.failure else none)
  if call = 0 then
    s.onFirst.foldr
      (fun request next =>
        match request with
        | .add listener => .add listener fun _ => next
        | .remove listener => .remove listener fun _ => next
        | .dispatch bytes => .dispatch bytes fun _ => next)
      last
  else last

/-- The behaviour of a cast of scripted listeners. -/
def behaviour (cast : List (Name × Script)) : Behaviour :=
  fun listener call _ => ((cast.lookup listener).getD {}).reaction call

end Script

/-- Serves one request from outside.  A scripted listener dispatches during its first
call only, so no more dispatches are ever open than there are listeners, and one. -/
def serve (cast : List (Name × Script)) (hub : Hub) : Request → Run Answer
  | .add listener =>
    let (done, registry) := hub.registry.add listener
    some (.changed done, { hub with registry }, [])
  | .remove listener =>
    let (done, registry) := hub.registry.remove listener
    some (.changed done, { hub with registry }, [])
  | .dispatch bytes =>
    (dispatch (Script.behaviour cast) 0 (cast.length + 1) bytes hub).map
      fun (outcome, hub, moments) => (.dispatched outcome, hub, moments)

end MediaTransport.Dispatch
