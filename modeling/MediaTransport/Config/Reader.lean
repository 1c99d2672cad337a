/-
# MediaTransport.Config.Reader -- configurations as documents

A configuration is written as a document of nested records.  A record is an object of
its fields, or an array of them in the order of their declaration; fields that are left
out take their defaults.  Members of other names are passed over, but their literals have
to have values; a field that is given twice is refused.

The interface of a stream is a record with a tag, the field `transport`, which decides
what its other fields are.  Its contents are taken first and looked at once the tag is
known; what is wrong with them is then reported at the start of the document.

An error is found in the order of the text.  It carries the place where the innermost
value that is to blame starts.
-/
import MediaTransport.Config
import MediaTransport.Json5.Content

namespace MediaTransport.Config

set_option autoImplicit false

open Json5 (Content Flaw Flawed Key Mark Value)
open Net (Address)

/-! ## Errors -/

/-- What is wrong with a document. -/
inductive Cause where
  | flaw (flaw : Flaw)
  | invalidType (found : Content) (expected : String)
  | invalidValue (found : Content) (expected : String)
  | invalidLength (count : Nat) (expected : String)
  | missingField (name : String)
  | duplicateField (name : String)
  | unknownVariant (name expected : String)
  | badAddress
  /-- An object in place of a variant that has no member. -/
  | emptyVariant
  | notVariant

def Cause.message : Cause → String
  | .flaw found => found.message
  | .invalidType found expected => s!"invalid type: {found.describe}, expected {expected}"
  | .invalidValue found expected => s!"invalid value: {found.describe}, expected {expected}"
  | .invalidLength count expected => s!"invalid length {count}, expected {expected}"
  | .missingField name => "missing field `" ++ name ++ "`"
  | .duplicateField name => "duplicate field `" ++ name ++ "`"
  | .unknownVariant name expected => "unknown variant `" ++ name ++ "`, expected " ++ expected
  | .badAddress => "invalid socket address syntax"
  | .emptyVariant => "expected a nonempty object"
  | .notVariant => "expected a string or an object"

/-- A cause and the place it is reported at. -/
structure DataError where
  mark : Mark
  cause : Cause

/-- A configuration cannot be read: its text is no document, or the document describes
none. -/
inductive Error where
  | syntaxError
  | data (error : DataError)

/-- Turns a flaw into an error. -/
def flawless {α : Type} : Except Flawed α → Except DataError α
  | .ok a => .ok a
  | .error (mark, flaw) => .error ⟨mark, .flaw flaw⟩

/-- Gives a cause its place. -/
def reportedAt {α : Type} (mark : Mark) : Except Cause α → Except DataError α
  | .ok a => .ok a
  | .error cause => .error ⟨mark, cause⟩

/-- The refusal of a value that is none of what was expected. -/
def mismatch {α : Type} (v : Value) (expected : String) : Except DataError α := do
  let found ← flawless v.outline
  .error ⟨v.mark, .invalidType found expected⟩

/-! ## Records -/

/-- Reads the members of an object into a record.  `name` tells the name of a member,
`pass` passes over a member of another name and `read` reads a field. -/
def readMembers {ε κ α σ : Type} (name : κ → Except ε String) (duplicate : String → ε)
    (pass : α → Except ε Unit) (fields : List String) (read : σ → String → α → Except ε σ) :
    List String → List (κ × α) → σ → Except ε σ
  | _, [], record => .ok record
  | seen, (key, value) :: rest, record => do
    let field ← name key
    if fields.contains field then
      if seen.contains field then .error (duplicate field)
      else
        let record ← read record field value
        readMembers name duplicate pass fields read (field :: seen) rest record
    else
      pass value
      readMembers name duplicate pass fields read seen rest record

/-- Reads the items of an array into the fields of a record; items beyond the last field
are left. -/
def readItems {ε α σ : Type} (read : σ → String → α → Except ε σ) :
    List String → List α → σ → Except ε σ
  | field :: fields, item :: items, record => do
    readItems read fields items (← read record field item)
  | _, _, record => .ok record

/-- Reads a record without a tag. -/
def readRecord {σ : Type} (expected : String) (fields : List String)
    (read : σ → String → Value → Except DataError σ) (start : σ) :
    Value → Except DataError σ
  | .object mark members =>
    readMembers (fun key => flawless (Key.name key))
      (fun field => ⟨mark, .duplicateField field⟩)
      (fun value => (flawless value.content).map fun _ => ())
      fields read [] members start
  | .array _ items => readItems read fields items start
  | other => mismatch other expected

/-! ## Fields of sections -/

/-- The largest number of 64 bits. -/
def largestCount : Nat := 18446744073709551615

/-- A number of 64 bits: any number, cut to a whole one and to the range. -/
def readCount : Value → Except DataError Nat
  | .number mark text =>
    (flawless (Json5.located mark (Json5.realNumber text))).map fun x =>
      x.saturate largestCount
  | other => .error ⟨other.mark, .flaw .number⟩

/-- A string, or nothing for `null`. -/
def readOptionalText : Value → Except DataError (Option String)
  | .null _ => .ok none
  | .string mark content =>
    (flawless (Json5.located mark (Json5.textContent content))).map some
  | other => mismatch other "a string"

/-- The levels as an error message lists them. -/
def levelNames : String :=
  "one of " ++ ", ".intercalate (Log.Level.all.map fun level => "`" ++ level.name ++ "`")

def readLevelName (mark : Mark) (name : String) : Except DataError Log.Level :=
  match Log.Level.ofName? name with
  | some level => .ok level
  | none => .error ⟨mark, .unknownVariant name levelNames⟩

/-- A level: its name, or an object whose first member has that name and no value. -/
def readLevel : Value → Except DataError Log.Level
  | .string mark content => do
    readLevelName mark (← flawless (Json5.located mark (Json5.textContent content)))
  | .object mark [] => .error ⟨mark, .emptyVariant⟩
  | .object _ ((key, value) :: _) => do
    let level ← readLevelName key.mark (← flawless key.name)
    match value with
    | .null _ => return level
    | other => mismatch other "unit"
  | other => .error ⟨other.mark, .notVariant⟩

/-! ## Interfaces -/

/-- The kinds of socket as an error message lists them. -/
def transportNames : String :=
  "`udp` or `tcp`"

/-- The name of the field that holds the tag. -/
def tagField : String := "transport"

/-- The tag of an interface. -/
def readTag : Value → Except DataError Transport
  | .string mark content => do
    match ← flawless (Json5.located mark (Json5.textContent content)) with
    | "udp" => return .udp
    | "tcp" => return .tcp
    | other => .error ⟨mark, .unknownVariant other transportNames⟩
  | other => mismatch other "variant identifier"

/-- The members of an interface so far: its tag, and the contents of the others. -/
structure Untagged where
  tag : Option Transport := none
  others : List (String × Content) := []

/-- Takes the tag and the contents of the members of an interface. -/
def untag (mark : Mark) : List (Key × Value) → Untagged → Except DataError Untagged
  | [], taken => .ok taken
  | (key, value) :: rest, taken => do
    if (← flawless key.name) = tagField then
      if taken.tag.isSome then .error ⟨mark, .duplicateField tagField⟩
      else untag mark rest { taken with tag := some (← readTag value) }
    else
      let name ← flawless key.name
      let content ← flawless value.content
      untag mark rest { taken with others := taken.others ++ [(name, content)] }

/-- The contents of an interface without its tag, by name or by position. -/
inductive Contents where
  | named (members : List (String × Content))
  | positional (items : List Content)

/-- A number of an interface: a whole one, not negative. -/
def readSize : Content → Except Cause Nat
  | .integer value =>
    if 0 ≤ value then .ok value.toNat
    else .error (.invalidValue (.integer value) "usize")
  | other => .error (.invalidType other "usize")

def readAddress : Content → Except Cause Address
  | .string text =>
    match Address.parse text with
    | some address => .ok address
    | none => .error .badAddress
  | other => .error (.invalidType other "socket address")

/-- A field that may be `null`. -/
def optional {α : Type} (read : Content → Except Cause α) :
    Content → Except Cause (Option α)
  | .null => .ok none
  | other => (read other).map some

/-- Reads contents into a record, by name or by position. -/
def readContents {σ : Type} (fields : List String)
    (read : σ → String → Content → Except Cause σ) (start : σ) :
    Contents → Except Cause σ
  | .named members =>
    readMembers (fun name => .ok name) .duplicateField (fun _ => .ok ()) fields read []
      members start
  | .positional items => readItems read fields items start

/-- The refusal of contents whose first field, which has no default, is missing. -/
def missingFirst (field variant : String) : Contents → Cause
  | .named _ => .missingField field
  | .positional _ => .invalidLength 0 ("struct variant Interface::" ++ variant)

/-- Refuses items beyond the last field. -/
def noExcess (count : Nat) : Contents → Except Cause Unit
  | .named _ => .ok ()
  | .positional items =>
    if items.length ≤ count then .ok ()
    else .error (.invalidLength items.length s!"{count} elements in sequence")

/-- The fields of an interface so far. -/
structure InterfaceFields where
  listen : Option Address := none
  remote : Option Address := none
  mtu : Nat := Interface.defaultMtu
  receiveBuffer : Option Nat := none
  sendQueue : Nat := Interface.defaultSendQueue

/-- The fields of an interface for datagrams, in order. -/
def udpFields : List String :=
  ["listen", "remote", "mtu", "receive-buffer-size"]

/-- The fields of a connected interface, in order. -/
def tcpFields : List String :=
  ["remote", "listen", "mtu", "receive-buffer-size", "send-queue"]

/-- Reads one field of an interface; `needed` is the one that may not be `null`. -/
def readInterfaceField (needed : String) (f : InterfaceFields) (field : String)
    (content : Content) : Except Cause InterfaceFields := do
  let address := if field = needed then fun c => (readAddress c).map some
    else optional readAddress
  match field with
  | "listen" => return { f with listen := ← address content }
  | "remote" => return { f with remote := ← address content }
  | "mtu" => return { f with mtu := ← readSize content }
  | "receive-buffer-size" => return { f with receiveBuffer := ← optional readSize content }
  | _ => return { f with sendQueue := ← readSize content }

/-- The interface of given contents. -/
def interfaceOf (tag : Transport) (contents : Contents) : Except Cause Interface :=
  match tag with
  | .udp => do
    let f ← readContents udpFields (readInterfaceField "listen") {} contents
    match f.listen with
    | none => .error (missingFirst "listen" "Udp with 4 elements" contents)
    | some listen =>
      noExcess udpFields.length contents
      return .udp listen f.remote f.mtu f.receiveBuffer
  | .tcp => do
    let f ← readContents tcpFields (readInterfaceField "remote") {} contents
    match f.remote with
    | none => .error (missingFirst "remote" "Tcp with 5 elements" contents)
    | some remote =>
      noExcess tcpFields.length contents
      return .tcp remote f.listen f.mtu f.receiveBuffer f.sendQueue

/-- Reads an interface; `root` is the start of the document. -/
def readInterface (root : Mark) : Value → Except DataError Interface
  | .object mark members => do
    let taken ← untag mark members {}
    match taken.tag with
    | none => .error ⟨mark, .missingField tagField⟩
    | some tag => reportedAt root (interfaceOf tag (.named taken.others))
  | .array mark [] => .error ⟨mark, .missingField tagField⟩
  | .array _ (first :: rest) => do
    let tag ← readTag first
    let contents ← flawless (Json5.itemContents rest)
    reportedAt root (interfaceOf tag (.positional contents))
  | other => mismatch other "internally tagged enum Interface"

/-! ## Configurations -/

def readRateLimit (v : Value) : Except DataError Nat :=
  readRecord "struct RateLimit" ["min-backoff"] (fun _ _ value => readCount value)
    ({} : Config).minBackoff v

def readPool (v : Value) : Except DataError Nat :=
  readRecord "struct Pool" ["capacity"] (fun _ _ value => readCount value)
    ({} : Config).poolCapacity v

def readStrategy (v : Value) : Except DataError (Option String) :=
  readRecord "struct Strategy" ["packet-logger"] (fun _ _ value => readOptionalText value)
    ({} : Config).packetLogger v

def readLog (v : Value) : Except DataError Log.Level :=
  readRecord "struct Log" ["level"] (fun _ _ value => readLevel value)
    ({} : Config).logLevel v

/-- The sections of a configuration, in order. -/
def sections : List String :=
  ["rtp", "rtcp", "rate-limit", "pool", "strategy", "log"]

/-- Reads one section; `root` is the start of the document. -/
def readSection (root : Mark) (c : Config) (name : String) (v : Value) :
    Except DataError Config := do
  match name with
  | "rtp" => return { c with rtp := ← readInterface root v }
  | "rtcp" => return { c with rtcp := ← readInterface root v }
  | "rate-limit" => return { c with minBackoff := ← readRateLimit v }
  | "pool" => return { c with poolCapacity := ← readPool v }
  | "strategy" => return { c with packetLogger := ← readStrategy v }
  | _ => return { c with logLevel := ← readLog v }

/-- The configuration that a document describes. -/
def ofValue (v : Value) : Except DataError Config :=
  readRecord "struct Config" sections (readSection v.mark) {} v

/-- Reads a text as a configuration. -/
def parse (text : String) : Except Error Config :=
  match Value.parse text with
  | none => .error .syntaxError
  | some v => (ofValue v).mapError .data

end MediaTransport.Config
