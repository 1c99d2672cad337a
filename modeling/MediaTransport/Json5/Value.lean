/-
# MediaTransport.Json5.Value -- documents as trees

A document that has been read is a tree whose nodes know where in the text they start.
Numbers keep their text, because how a number is read depends on what is wanted.  A
string or a key whose escapes name a code point that is no character has no content; that
is found out only by those who want the content.
-/

namespace MediaTransport.Json5

set_option autoImplicit false

/-- A place in a text: line and column, both from one, in characters. -/
structure Mark where
  line : Nat
  column : Nat
  deriving DecidableEq, Repr

/-- The start of a text. -/
def Mark.start : Mark := ⟨1, 1⟩

/-- The place behind a character. -/
def Mark.after (m : Mark) (c : Char) : Mark :=
  if c = '\n' then ⟨m.line + 1, 1⟩ else ⟨m.line, m.column + 1⟩

/-- The name of a member of an object. -/
structure Key where
  mark : Mark
  content : Option String
  deriving DecidableEq, Repr

/-- A value and the place where it starts. -/
inductive Value where
  | null (mark : Mark)
  | bool (mark : Mark) (value : Bool)
  | number (mark : Mark) (text : List Char)
  | string (mark : Mark) (content : Option String)
  | array (mark : Mark) (items : List Value)
  | object (mark : Mark) (members : List (Key × Value))

/-- Where a value starts. -/
def Value.mark : Value → Mark
  | .null mark => mark
  | .bool mark _ => mark
  | .number mark _ => mark
  | .string mark _ => mark
  | .array mark _ => mark
  | .object mark _ => mark

end MediaTransport.Json5
