/-
# MediaTransport.Log -- levels and lines of the log

Every part of the transport describes what it reports as an event of its own type
and gives the event a level and a text; an `Entry` is the two together.  Whether an
entry is written depends on the most verbose level that is enabled.
-/

namespace MediaTransport.Log

set_option autoImplicit false

/-- How important a line is, the most important first. -/
inductive Level where
  | error
  | warn
  | info
  | debug
  | trace
  deriving DecidableEq, Repr

namespace Level

def name : Level → String
  | .error => "error"
  | .warn => "warn"
  | .info => "info"
  | .debug => "debug"
  | .trace => "trace"

/-- All levels, the most important first. -/
def all : List Level :=
  [.error, .warn, .info, .debug, .trace]

/-- The level of a given name; names are lower case. -/
def ofName? (text : String) : Option Level :=
  all.find? fun level => level.name == text

/-- Position among the levels: more verbose is larger. -/
def verbosity : Level → Nat
  | .error => 1
  | .warn => 2
  | .info => 3
  | .debug => 4
  | .trace => 5

/-- The refusal of a name that no level has. -/
def unknownMessage (text : String) : String :=
  s!"unknown log level: {text}"

end Level

/-- Which lines are written: none, or those up to a level. -/
abbrev Threshold := Option Level

namespace Threshold

/-- Whether lines of a level are written. -/
def enables (limit : Threshold) (level : Level) : Bool :=
  match limit with
  | none => false
  | some most => level.verbosity ≤ most.verbosity

end Threshold

/-- One line for the log. -/
structure Entry where
  level : Level
  text : String
  deriving DecidableEq, Repr

/-- A text with named details behind it. -/
def detailed (about : String) (details : List (String × String)) : String :=
  about ++ ": " ++ ", ".intercalate (details.map fun (name, value) => name ++ "=" ++ value)

/-- The line with its level in front. -/
def Entry.line (e : Entry) : String :=
  s!"{e.level.name}: {e.text}"

/-- The lines that are written under a threshold. -/
def written (limit : Threshold) (entries : List Entry) : List String :=
  (entries.filter fun e => Threshold.enables limit e.level).map Entry.line

end MediaTransport.Log
