/-
# MediaTransport.Strategy -- choosing an implementation from a list of candidates

Implementations are registered as factories under names.  A selection walks an
ordered list of candidates, a configured override first and the built-in defaults
after it, and keeps the first one whose factory succeeds; every failure before it is
recorded.  Only running out of candidates is an error.

A factory may answer differently from call to call, so it is a function of the
number of calls before, and the registry counts them.
-/
import MediaTransport.Text.Blank
import MediaTransport.Text.Quoted
import MediaTransport.Log

namespace MediaTransport.Strategy

set_option autoImplicit false

/-! ## Candidates -/

/-- The override without its surrounding blanks, unless nothing else is left. -/
def overriding (choice : Option String) : List String :=
  match choice with
  | none => []
  | some text =>
    let name := Text.trim text
    if name.isEmpty then [] else [name]

/-- The names without the ones already in a list of names seen before. -/
def distinctFrom (seen : List String) : List String → List String
  | [] => []
  | name :: rest =>
    if seen.contains name then distinctFrom seen rest
    else name :: distinctFrom (name :: seen) rest

/-- The candidates in the order in which they are tried: the override, then the
fallbacks, each name once. -/
def candidates (choice : Option String) (fallbacks : List String) : List String :=
  distinctFrom [] (overriding choice ++ fallbacks)

/-! ## Factories -/

/-- A factory with the number of times it has been called. -/
structure Factory (α : Type) where
  /-- What the call with a given number builds, or why it fails. -/
  build : Nat → Except String α
  calls : Nat := 0

/-- The factories by name, each name once. -/
abbrev Registry (α : Type) := List (String × Factory α)

namespace Registry

variable {α : Type}

/-- Registers a factory in place of any other of its name. -/
def register (r : Registry α) (name : String) (factory : Factory α) : Registry α :=
  (name, factory) :: r.filter fun entry => entry.1 != name

def contains (r : Registry α) (name : String) : Bool :=
  (List.lookup name r).isSome

/-- Why a name that nobody registered cannot be built. -/
def unregistered (name : String) : String :=
  s!"no implementation registered as {Text.quoted name}"

/-- Calls the factory of a name once. -/
def build (r : Registry α) (name : String) : Except String α × Registry α :=
  match List.lookup name r with
  | none => (.error (unregistered name), r)
  | some factory =>
    (factory.build factory.calls,
      r.map fun entry =>
        if entry.1 == name then (entry.1, { entry.2 with calls := entry.2.calls + 1 })
        else entry)

end Registry

/-! ## Selection -/

/-- A candidate that could not be built. -/
structure Attempt where
  name : String
  cause : String
  deriving DecidableEq, Repr

/-- What a selection reports. -/
inductive Event where
  | selected (name : String) (failures : Nat)
  | unavailable (attempt : Attempt)
  deriving DecidableEq, Repr

def Event.entry : Event → Log.Entry
  | .selected name failures =>
    ⟨.info, Log.detailed "strategy selected"
      [("name", name), ("failed attempts", toString failures)]⟩
  | .unavailable attempt =>
    ⟨.debug, Log.detailed "strategy unavailable"
      [("name", attempt.name), ("err", attempt.cause)]⟩

/-- The implementation that was chosen, with the candidates that failed before it. -/
structure Selected (α : Type) where
  name : String
  value : α
  failures : List Attempt

/-- All candidates failed. -/
structure Unavailable where
  attempted : List String
  lastCause : Option String
  deriving DecidableEq, Repr

def Unavailable.message (u : Unavailable) : String :=
  let names := ", ".intercalate u.attempted
  let start := s!"no implementation available, attempted=[{names}]"
  match u.lastCause with
  | some cause => s!"{start}, last cause={cause}"
  | none => start

/-- The result of a selection, the registry after it and what it reported. -/
structure Selection (α : Type) where
  result : Except Unavailable (Selected α)
  registry : Registry α
  events : List Event

variable {α : Type}

/-- Tries names in order after some attempts have failed. -/
def tryAll (attempted : List String) (failures : List Attempt) :
    List String → Registry α → Selection α
  | [], registry =>
    { result := .error ⟨attempted, failures.getLast?.map Attempt.cause⟩
      registry := registry
      events := [] }
  | name :: rest, registry =>
    match registry.build name with
    | (.ok value, registry) =>
      { result := .ok ⟨name, value, failures⟩
        registry := registry
        events := [.selected name failures.length] }
    | (.error cause, registry) =>
      let attempt : Attempt := ⟨name, cause⟩
      let later := tryAll attempted (failures ++ [attempt]) rest registry
      { later with events := .unavailable attempt :: later.events }

/-- Tries candidates in order and keeps the first one that builds. -/
def selectFrom (registry : Registry α) (names : List String) : Selection α :=
  tryAll names [] names registry

/-- Tries the override, then the fallbacks. -/
def select (registry : Registry α) (choice : Option String) (fallbacks : List String) :
    Selection α :=
  selectFrom registry (candidates choice fallbacks)

end MediaTransport.Strategy
