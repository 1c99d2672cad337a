/-
# MediaTransport.CommandLine -- the arguments of the program

One option names the configuration file; two more ask for help and for the version.  The
value of the option may be joined to its name, with an equals sign or, behind the short
name, without, or it may be the next argument, unless that starts like an option.

An option whose value is the next argument is settled late: when the next known option
comes, or at the end.  An unknown option and a stray argument are reported at once, even
while an earlier option is not settled.  Messages repeat what was written without the
sequences that steer a terminal.
-/
import MediaTransport.Text.Plain

namespace MediaTransport.CommandLine

set_option autoImplicit false

/-- What the program is asked to do. -/
inductive Request where
  /-- Run, with the configuration of a file if one is named. -/
  | run (config : Option String)
  | help
  | version
  deriving DecidableEq, Repr

/-- Why the arguments make no request. -/
inductive UsageError where
  /-- The option for the file without a value. -/
  | missingValue
  /-- The option for the file a second time. -/
  | repeated
  | unexpected (argument : String)
  /-- A value for an option that takes none. -/
  | needless (value option : String)
  deriving DecidableEq, Repr

/-- The option for the file as messages show it. -/
def configUsage : String := "--config <CONFIG>"

def UsageError.message : UsageError → String
  | .missingValue =>
    s!"error: a value is required for '{configUsage}' but none was supplied"
  | .repeated => s!"error: the argument '{configUsage}' cannot be used multiple times"
  | .unexpected argument => s!"error: unexpected argument '{Text.plain argument}' found"
  | .needless value option =>
    let value := Text.plain value
    s!"error: unexpected value '{value}' for '{option}' found; no more were expected"

/-- What the program says about itself. -/
def about : String :=
  "RTP/RTCP transport and control-plane layer for real-time media."

def versionLine : String := "rtp-transport 0.1.0"

/-- The help text. -/
def helpText : String :=
  about ++ "\n\nUsage: rtp-transport [OPTIONS]\n\nOptions:\n" ++
    "  -c, --config <CONFIG>  Specify the configuration file path\n" ++
    "  -h, --help             Print help\n  -V, --version          Print version\n"

/-- An option that waits to be settled. -/
inductive Pending where
  | nothing
  /-- The option for the file has been named. -/
  | named
  | valued (value : String)

/-- What the arguments read so far say. -/
structure Progress where
  config : Option String := none
  pending : Pending := .nothing

/-- Takes a value for the option for the file. -/
def Progress.assign (p : Progress) (value : String) : Except UsageError Progress :=
  if p.config.isSome then .error .repeated else .ok { config := some value }

/-- Settles the option that waits. -/
def Progress.settle (p : Progress) : Except UsageError Progress :=
  match p.pending with
  | .nothing => .ok p
  | .named => .error .missingValue
  | .valued value => p.assign value

/-- The argument as an option that takes part in the reading. -/
inductive Choice where
  /-- The option for the file, with the value that is joined to it. -/
  | config (value : Option String)
  | help
  | version
  | wrong (error : UsageError)

/-- An option by its long name, with the value behind an equals sign. -/
def longOption (name : String) (value : Option String) : Choice :=
  match name, value with
  | "config", value => .config value
  | "help", none => .help
  | "version", none => .version
  | "help", some value => .wrong (.needless value "--help")
  | "version", some value => .wrong (.needless value "--version")
  | other, _ => .wrong (.unexpected ("--" ++ other))

/-- The text up to an equals sign and the text behind it. -/
def splitEquals (text : List Char) : String × Option String :=
  match text.dropWhile (· != '=') with
  | [] => (String.ofList text, none)
  | _ :: value => (String.ofList (text.takeWhile (· != '=')), some (String.ofList value))

/-- An option by the letters behind one hyphen; the first one decides. -/
def shortOption (letter : Char) (rest : List Char) : Choice :=
  match letter, rest with
  | 'c', [] => .config none
  | 'c', '=' :: value => .config (some (String.ofList value))
  | 'c', value => .config (some (String.ofList value))
  | 'h', _ => .help
  | 'V', _ => .version
  | other, _ => .wrong (.unexpected (String.ofList ['-', other]))

/-- The option that an argument is, if it looks like one. -/
def option? (argument : String) : Option Choice :=
  match argument.toList with
  | '-' :: '-' :: text =>
    let (name, value) := splitEquals text
    some (longOption name value)
  | '-' :: letter :: rest => some (shortOption letter rest)
  | _ => none

/-- Reads the arguments from some progress on. -/
def parseFrom (p : Progress) : List String → Except UsageError Request
  | [] => do return .run (← p.settle).config
  | "--" :: [] => do return .run (← p.settle).config
  | "--" :: stray :: _ => .error (.unexpected stray)
  | argument :: rest =>
    match option? argument with
    | some (.config none) => do
      parseFrom { ← p.settle with pending := .named } rest
    | some (.config (some value)) => do
      parseFrom (← (← p.settle).assign value) rest
    | some .help => do
      let _ ← p.settle
      return .help
    | some .version => do
      let _ ← p.settle
      return .version
    | some (.wrong e) => .error e
    | none =>
      match p.pending with
      | .named => parseFrom { p with pending := .valued argument } rest
      | _ => .error (.unexpected argument)

/-- Reads the arguments. -/
def parse (arguments : List String) : Except UsageError Request :=
  parseFrom {} arguments

end MediaTransport.CommandLine
