/-
# MediaTransport.Main -- the command line

Loads the configuration that the arguments ask for and shows the streams that it
describes.  Everything is decided by `Config.load`; here files are read and lines are
written.
-/
import MediaTransport.Config.Load

namespace MediaTransport.Program

set_option autoImplicit false

/-- One line for a stream. -/
def streamLine (config : Config) (protocol : Protocol) : String :=
  let interface := config.interface protocol
  let place := match interface with
    | .udp listen _ _ _ => s!"on {listen.text}"
    | .tcp remote _ _ _ _ => s!"to {remote.text}"
  s!"{protocol.name}: {interface.transport.name} {place}, mtu {interface.mtu}"

/-- Reads a file of the system. -/
def readFile (path : String) : IO (Except Files.ReadError Octets) := do
  try
    let content ← IO.FS.readBinFile path
    return .ok content.toList
  catch
    | .inappropriateType .. => return .error .isADirectory
    | _ => return .error .notFound

/-- The file that the arguments name, as a directory of one file. -/
def namedFile (arguments : List String) : IO (String → Except Files.ReadError Octets) := do
  match CommandLine.parse arguments with
  | .ok (.run (some path)) =>
    let content ← readFile path
    return fun _ => content
  | _ => return fun _ => .error .notFound

end MediaTransport.Program

open MediaTransport Program

def main (arguments : List String) : IO UInt32 := do
  match Config.load (← namedFile arguments) arguments with
  | .config config =>
    for protocol in [Protocol.rtp, Protocol.rtcp] do
      IO.println (streamLine config protocol)
    return 0
  | .finished text =>
    IO.println text
    return 0
  | .misused error =>
    IO.eprintln error.message
    return UInt32.ofNat Config.misuseCode
  | .unreadable error =>
    IO.eprintln error.message
    return 1
  | .invalid .syntaxError =>
    IO.eprintln "error in the syntax of the configuration"
    return 1
  | .invalid (.data error) =>
    IO.eprintln s!"{error.mark.line}:{error.mark.column}: {error.cause.message}"
    return 1
