/-
# MediaTransport.Config.Load -- the configuration that the arguments ask for

The configuration comes from the file that the arguments name, or it is the default.
Arguments that ask for something else, or for nothing sensible, end the program.
-/
import MediaTransport.CommandLine
import MediaTransport.Config.Reader
import MediaTransport.Files

namespace MediaTransport.Config

set_option autoImplicit false

/-- How the start of the program may turn out. -/
inductive Loaded where
  | config (config : Config)
  | invalid (error : Error)
  | unreadable (error : Files.ReadError)
  /-- The program ends after writing something. -/
  | finished (text : String)
  | misused (error : CommandLine.UsageError)

/-- The exit code after arguments that make no request. -/
def misuseCode : Nat := 2

/-- Reads the text of a file. -/
def fromOctets (octets : Octets) : Loaded :=
  match Files.textOf octets with
  | .error e => .unreadable e
  | .ok text =>
    match parse text with
    | .ok config => .config config
    | .error e => .invalid e

/-- Loads the configuration; `read` reads a file. -/
def load (read : String → Except Files.ReadError Octets) (arguments : List String) :
    Loaded :=
  match CommandLine.parse arguments with
  | .error e => .misused e
  | .ok .help => .finished CommandLine.helpText
  | .ok .version => .finished CommandLine.versionLine
  | .ok (.run none) => .config {}
  | .ok (.run (some path)) =>
    match read path with
    | .error e => .unreadable e
    | .ok octets => fromOctets octets

end MediaTransport.Config
