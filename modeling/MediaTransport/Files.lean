/-
# MediaTransport.Files -- a directory of files, as data

A path is walked component by component: a relative one from the directory that holds
the files, an absolute one from the root of the system.  The directory of the files
stands among the temporary ones; of the system the standard directories are known and
the devices that read as empty files.  The length of a path and of each of its names, in
octets, is bounded; the path is measured first, a name when the walk comes to it.
-/
import MediaTransport.Octets

namespace MediaTransport

set_option autoImplicit false

/-- Files by their paths, each path once. -/
abbrev Files := List (String × Octets)

namespace Files

/-- Why a text cannot be read from a file. -/
inductive ReadError where
  | notFound
  | notADirectory
  | isADirectory
  /-- The path or a name in it has too many octets. -/
  | tooLong
  /-- The octets are no text. -/
  | notText
  deriving DecidableEq, Repr

def ReadError.message : ReadError → String
  | .notFound => "No such file or directory (os error 2)"
  | .notADirectory => "Not a directory (os error 20)"
  | .isADirectory => "Is a directory (os error 21)"
  | .tooLong => "File name too long (os error 36)"
  | .notText => "stream did not contain valid UTF-8"

/-- Octets that a name may have. -/
def longestName : Nat := 255

/-- Octets that a path may have. -/
def longestPath : Nat := 4095

/-- Whether some file lies below a directory. -/
def isDirectory (fs : Files) (place : List String) : Bool :=
  fs.any fun (path, _) =>
    let parts := path.splitOn "/"
    place.isPrefixOf parts && place.length < parts.length

/-! ## The system -/

/-- The devices that read as empty files: the null device, and the standard input, to
which nothing is written. -/
def devices : Files := [("dev/null", []), ("dev/stdin", [])]

/-- The directories at the root of a system. -/
def rootDirectories : List String :=
  ["bin", "boot", "dev", "etc", "home", "lib", "media", "mnt", "opt", "proc", "root", "run",
    "sbin", "srv", "sys", "tmp", "usr", "var"]

/-! ## Walks -/

/-- A directory that a walk has come to. -/
inductive Place where
  /-- The directory of the files or one below it, by the names that lead to it. -/
  | inside (names : List String)
  /-- A directory of the system, by the names that lead to it from the root. -/
  | system (names : List String)
  deriving DecidableEq

namespace Place

/-- The directory that holds this one; the root holds itself. -/
def parent : Place → Place
  | .inside [] => .system ["tmp"]
  | .inside (name :: names) => .inside (name :: names).dropLast
  | .system names => .system names.dropLast

/-- What a name stands for in a place: the content of a file, or a directory. -/
def enter? (fs : Files) (place : Place) (name : String) : Option (Octets ⊕ Place) :=
  match place with
  | .inside names =>
    let path := names ++ [name]
    match fs.lookup ("/".intercalate path) with
    | some content => some (.inl content)
    | none => if isDirectory fs path then some (.inr (.inside path)) else none
  | .system names =>
    let path := names ++ [name]
    match devices.lookup ("/".intercalate path) with
    | some content => some (.inl content)
    | none => if rootDirectories.any ([·] == path) then some (.inr (.system path)) else none

end Place

/-- Walks a path from a place to a file. -/
def walk (fs : Files) : Place → List String → Except ReadError Octets
  | _, [] => .error .isADirectory
  | place, "" :: rest => walk fs place rest
  | place, "." :: rest => walk fs place rest
  | place, ".." :: rest => walk fs place.parent rest
  | place, name :: rest =>
    if longestName < name.utf8ByteSize then .error .tooLong
    else match place.enter? fs name with
    | some (.inl content) => if rest.isEmpty then .ok content else .error .notADirectory
    | some (.inr next) => walk fs next rest
    | none => .error .notFound

/-- The octets of a file. -/
def read (fs : Files) (path : String) : Except ReadError Octets :=
  if longestPath < path.utf8ByteSize then .error .tooLong
  else if path.isEmpty then .error .notFound
  else walk fs (if path.startsWith "/" then .system [] else .inside []) (path.splitOn "/")

/-- The text that octets encode. -/
def textOf (octets : Octets) : Except ReadError String :=
  match String.fromUTF8? ⟨octets.toArray⟩ with
  | some text => .ok text
  | none => .error .notText

end Files

end MediaTransport
