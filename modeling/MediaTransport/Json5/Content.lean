/-
# MediaTransport.Json5.Content -- what a value says

The content of a tree forgets places and turns literals into numbers and strings.  A
literal may fail to have a value even though the grammar allows it; such a failure is a
`Flaw` at the place of the literal.

Numbers without a point, an exponent or a name are whole numbers: decimal ones of 64
bits with a sign, hexadecimal ones of 32 bits without.  All others are of double
precision, and must be finite unless they are written by name, with no sign but a minus.
-/
import MediaTransport.Decimal.Shortest
import MediaTransport.Json5.Value
import MediaTransport.Json5.Reader
import MediaTransport.Text.Quoted

namespace MediaTransport.Json5

set_option autoImplicit false

open Decimal (Binary64 Numeral)

/-- Why a literal has no value. -/
inductive Flaw where
  | number
  | tooLarge
  | integer
  | hex
  /-- An escape that names no character. -/
  | escape
  deriving DecidableEq, Repr

def Flaw.message : Flaw → String
  | .number => "error parsing number"
  | .tooLarge => "error parsing number: too large"
  | .integer => "error parsing integer"
  | .hex => "error parsing hex"
  | .escape => "error parsing hex prefix"

/-! ## Literals -/

/-- The digits of a hexadecimal number without a sign. -/
def hexDigits? : List Char → Option (List Char)
  | '0' :: x :: digits => if (x = 'x' ∨ x = 'X') ∧ digits ≠ [] then some digits else none
  | _ => none

/-- Whether a text contains a word. -/
def containsWord (word : List Char) : List Char → Bool
  | [] => word.isEmpty
  | c :: rest => word.isPrefixOf (c :: rest) || containsWord word rest

/-- Whether a number is written as a whole number. -/
def isWhole (text : List Char) : Bool :=
  !text.contains '.'
    && ((hexDigits? text).isSome || !(text.contains 'e' || text.contains 'E'))
    && !containsWord "Infinity".toList text
    && !containsWord "NaN".toList text

/-- The value of hexadecimal digits, at most 32 bits. -/
def hexNumber (digits : List Char) : Except Flaw Nat :=
  let value := hexValue digits
  if value < 4294967296 then .ok value else .error .hex

/-- The value of a number that is written as a whole number. -/
def wholeNumber (text : List Char) : Except Flaw Int :=
  match hexDigits? text with
  | some digits => (hexNumber digits).map Int.ofNat
  | none =>
    let (negative, digits) := Decimal.splitSign text
    let magnitude := Decimal.digitsValue digits
    let value : Int := if negative then -magnitude else magnitude
    if digits.isEmpty || !digits.all isDigit then .error .integer
    else if value < -9223372036854775808 ∨ 9223372036854775807 < value then .error .integer
    else .ok value

/-- The value of any literal as a number of double precision.  A sign is allowed in front
of decimal digits; of the names, a minus may precede both. -/
def realNumber (text : List Char) : Except Flaw Binary64 :=
  match hexDigits? text with
  | some digits => (hexNumber digits).map Binary64.ofNat
  | none =>
    let (negative, unsigned) := Decimal.splitSign text
    let plus := text.head? = some '+'
    if unsigned = "Infinity".toList then
      if plus then .error .tooLarge else .ok (.infinite negative)
    else if unsigned = "NaN".toList then
      if plus then .error .tooLarge else .ok .nan
    else
      match Numeral.parse text with
      | none => .error .number
      | some numeral =>
        let value := Binary64.ofNumeral numeral
        if value.isFinite then .ok value else .error .tooLarge

/-! ## Contents -/

/-- What a value says, without places. -/
inductive Content where
  | null
  | bool (value : Bool)
  | integer (value : Int)
  | real (value : Binary64)
  | string (text : String)
  | sequence (items : List Content)
  | map (members : List (String × Content))

/-- How an error message names a content that was not expected. -/
def Content.describe : Content → String
  | .null => "unit value"
  | .bool value => "boolean `" ++ toString value ++ "`"
  | .integer value => "integer `" ++ toString value ++ "`"
  | .real value => "floating point `" ++ value.text ++ "`"
  | .string text => "string " ++ Text.quoted text
  | .sequence _ => "sequence"
  | .map _ => "map"

/-- The content of a number. -/
def numberContent (text : List Char) : Except Flaw Content :=
  if isWhole text then (wholeNumber text).map .integer else (realNumber text).map .real

/-- The content of a string or a key. -/
def textContent : Option String → Except Flaw String
  | some text => .ok text
  | none => .error .escape

/-- A flaw and its place. -/
abbrev Flawed := Mark × Flaw

/-- Gives a flaw its place. -/
def located {α : Type} (mark : Mark) : Except Flaw α → Except Flawed α
  | .ok a => .ok a
  | .error flaw => .error (mark, flaw)

/-- The name of a member. -/
def Key.name (k : Key) : Except Flawed String :=
  located k.mark (textContent k.content)

mutual

/-- The content of a value, or the first flaw in it. -/
def Value.content : Value → Except Flawed Content
  | .null _ => .ok .null
  | .bool _ value => .ok (.bool value)
  | .number mark text => located mark (numberContent text)
  | .string mark content => located mark ((textContent content).map .string)
  | .array _ items => (itemContents items).map .sequence
  | .object _ members => (memberContents members).map .map

def itemContents : List Value → Except Flawed (List Content)
  | [] => .ok []
  | item :: rest => do
    let first ← item.content
    let others ← itemContents rest
    return first :: others

def memberContents : List (Key × Value) → Except Flawed (List (String × Content))
  | [] => .ok []
  | (key, value) :: rest => do
    let name ← key.name
    let first ← value.content
    let others ← memberContents rest
    return (name, first) :: others

end

/-- What a value is, as far as an error message tells: items and members are not looked
at. -/
def Value.outline : Value → Except Flawed Content
  | .array _ _ => .ok (.sequence [])
  | .object _ _ => .ok (.map [])
  | other => other.content

end MediaTransport.Json5
