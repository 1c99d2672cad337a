/-
# MediaTransport.Net.Address -- socket addresses and their text

An address is a host of either family with a port, for the longer family also with
a scope.  `parse` reads the usual text: four decimal octets and a port, or eight
hexadecimal groups in brackets, in which one run of zero groups may be left out, the
last two groups may be written as octets and a numeric scope may follow a percent
sign.  `text` writes the shortest form: the first of the longest runs of at least two
zero groups is left out, digits are lower case, and an address that embeds a short one
shows it as octets.
-/

namespace MediaTransport.Net

set_option autoImplicit false

/-- The address of a host of the short family. -/
structure Host4 where
  a : UInt8
  b : UInt8
  c : UInt8
  d : UInt8
  deriving DecidableEq, Repr

/-- The address of a host of the long family. -/
abbrev Host6 := Vector UInt16 8

/-- The address of a socket. -/
inductive Address where
  | v4 (host : Host4) (port : UInt16)
  | v6 (host : Host6) (scope : UInt32) (port : UInt16)
  deriving DecidableEq, Repr

namespace Address

/-- The port. -/
def port : Address → UInt16
  | .v4 _ port => port
  | .v6 _ _ port => port

/-! ## Reading -/

/-- The value of a digit in a radix of at most sixteen. -/
def digitValue? (radix : Nat) (c : Char) : Option Nat :=
  let value? :=
    if '0' ≤ c ∧ c ≤ '9' then some (c.toNat - '0'.toNat)
    else if 'a' ≤ c ∧ c ≤ 'f' then some (c.toNat - 'a'.toNat + 10)
    else if 'A' ≤ c ∧ c ≤ 'F' then some (c.toNat - 'A'.toNat + 10)
    else none
  value?.filter (· < radix)

/-- The number that digits spell. -/
def digitsValue (radix : Nat) (digits : List Char) : Nat :=
  digits.foldl (fun value c => value * radix + (digitValue? radix c).getD 0) 0

/-- The shape of a number: its radix, its largest value, how many digits it may have
and whether it may start with a zero that is not its only digit. -/
structure NumberShape where
  radix : Nat
  largest : Nat
  digits : Option Nat
  zeroLead : Bool

/-- One of the four numbers of a short address. -/
def octetShape : NumberShape := ⟨10, 255, some 3, false⟩

/-- One of the eight numbers of a long address. -/
def groupShape : NumberShape := ⟨16, 65535, some 4, true⟩

def portShape : NumberShape := ⟨10, 65535, none, true⟩

def scopeShape : NumberShape := ⟨10, 4294967295, none, true⟩

/-- Reads all digits at the front as one number. -/
def readNumber (shape : NumberShape) (text : List Char) : Option (Nat × List Char) :=
  let isDigit := fun c => (digitValue? shape.radix c).isSome
  let digits := text.takeWhile isDigit
  let value := digitsValue shape.radix digits
  let tooMany := shape.digits.any (· < digits.length)
  let zeroLed := !shape.zeroLead && 1 < digits.length && digits.head? == some '0'
  if digits.isEmpty || tooMany || zeroLed || shape.largest < value then none
  else some (value, text.dropWhile isDigit)

/-- Reads one given character. -/
def readChar (c : Char) : List Char → Option (List Char)
  | [] => none
  | d :: rest => if d = c then some rest else none

def readOctet (text : List Char) : Option (UInt8 × List Char) :=
  (readNumber octetShape text).map fun (value, rest) => (UInt8.ofNat value, rest)

/-- Reads four octets with points between them. -/
def readHost4 (text : List Char) : Option (Host4 × List Char) := do
  let (a, text) ← readOctet text
  let (b, text) ← readOctet (← readChar '.' text)
  let (c, text) ← readOctet (← readChar '.' text)
  let (d, text) ← readOctet (← readChar '.' text)
  return (⟨a, b, c, d⟩, text)

/-- Passes the colon that stands before every group but the first. -/
def passColon (first : Bool) (text : List Char) : Option (List Char) :=
  if first then some text else readChar ':' text

/-- Two groups from four octets. -/
def Host4.groups (h : Host4) : List UInt16 :=
  [UInt16.ofNat (h.a.toNat * 256 + h.b.toNat), UInt16.ofNat (h.c.toNat * 256 + h.d.toNat)]

/-- Reads at most `room` groups; two of them may be written as octets, which ends the
sequence.  Also says whether it ended so. -/
def readGroups : (room : Nat) → (first : Bool) → List Char → List UInt16 × Bool × List Char
  | 0, _, text => ([], false, text)
  | room + 1, first, text =>
    let octets? :=
      if room = 0 then none else (passColon first text).bind readHost4
    match octets? with
    | some (host, rest) => (Host4.groups host, true, rest)
    | none =>
      match (passColon first text).bind (readNumber groupShape) with
      | some (value, rest) =>
        let (groups, octets, rest) := readGroups room false rest
        (UInt16.ofNat value :: groups, octets, rest)
      | none => ([], false, text)

/-- The host with the given groups, if they are eight. -/
def host6? (groups : List UInt16) : Option Host6 :=
  if h : groups.toArray.size = 8 then some ⟨groups.toArray, h⟩ else none

/-- Reads eight groups, or fewer with a double colon in place of the zero groups that
are missing.  Octets stand at the end only. -/
def readHost6 (text : List Char) : Option (Host6 × List Char) := do
  let (front, octets, text) := readGroups 8 true text
  if front.length = 8 then return (← host6? front, text)
  if octets then none
  let text ← readChar ':' (← readChar ':' text)
  let (back, _, text) := readGroups (7 - front.length) true text
  let zeros := List.replicate (8 - front.length - back.length) 0
  return (← host6? (front ++ zeros ++ back), text)

def readPort (text : List Char) : Option (UInt16 × List Char) := do
  let (value, text) ← readNumber portShape (← readChar ':' text)
  return (UInt16.ofNat value, text)

/-- Reads the scope, which is zero where none is written. -/
def readScope (text : List Char) : UInt32 × List Char :=
  match (readChar '%' text).bind (readNumber scopeShape) with
  | some (value, rest) => (UInt32.ofNat value, rest)
  | none => (0, text)

def readV4 (text : List Char) : Option (Address × List Char) := do
  let (host, text) ← readHost4 text
  let (port, text) ← readPort text
  return (.v4 host port, text)

def readV6 (text : List Char) : Option (Address × List Char) := do
  let (host, text) ← readHost6 (← readChar '[' text)
  let (scope, text) := readScope text
  let (port, text) ← readPort (← readChar ']' text)
  return (.v6 host scope port, text)

/-- Reads a whole text as an address. -/
def parse (text : String) : Option Address :=
  match (readV4 text.toList).orElse fun _ => readV6 text.toList with
  | some (address, []) => some address
  | _ => none

/-! ## Writing -/

def Host4.text (h : Host4) : String :=
  s!"{h.a}.{h.b}.{h.c}.{h.d}"

/-- The groups in hexadecimal with colons between them. -/
def groupsText (groups : List UInt16) : String :=
  ":".intercalate (groups.map fun g => String.ofList (Nat.toDigits 16 g.toNat))

/-- Number of zero groups at the front. -/
def leadingZeros (groups : List UInt16) : Nat :=
  (groups.takeWhile (· == 0)).length

/-- Start and length of the first of the longest runs of zero groups. -/
def longestZeros (groups : List UInt16) : Nat × Nat :=
  go 0 groups
where
  go (start : Nat) : List UInt16 → Nat × Nat
    | [] => (start, 0)
    | g :: rest =>
      let here := leadingZeros (g :: rest)
      let later := go (start + 1) rest
      if later.2 ≤ here then (start, here) else later

/-- The octets that a long address embeds, if it embeds a short one. -/
def mapped? (h : Host6) : Option Host4 :=
  match h.toList with
  | [0, 0, 0, 0, 0, 0xffff, x, y] =>
    some ⟨UInt8.ofNat (x.toNat / 256), UInt8.ofNat x.toNat,
      UInt8.ofNat (y.toNat / 256), UInt8.ofNat y.toNat⟩
  | _ => none

def host6Text (h : Host6) : String :=
  match mapped? h with
  | some host => "::ffff:" ++ Host4.text host
  | none =>
    let (start, length) := longestZeros h.toList
    if 1 < length then
      groupsText (h.toList.take start) ++ "::" ++ groupsText (h.toList.drop (start + length))
    else groupsText h.toList

/-- The address as text. -/
def text : Address → String
  | .v4 host port => s!"{Host4.text host}:{port}"
  | .v6 host scope port =>
    if scope = 0 then s!"[{host6Text host}]:{port}"
    else s!"[{host6Text host}%{scope}]:{port}"

end Address

end MediaTransport.Net
