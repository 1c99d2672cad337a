/-
# MediaTransport.Text.Plain -- text without what steers a terminal

`plain` takes control sequences out of a text, and with them the controls that are no
white space.  A sequence starts with the escape character; its first character says how
it ends: a control sequence with a final character, a title with a bell, a string with
the octet `9c`, which may stand inside the encoding of a character.  A new escape
character begins a new sequence wherever it stands.

White space inside an escape or control sequence is shown, and what follows it too, up
to the next character that is not shown; only then does the sequence go on.

`firstLine` is the first line of a text.
-/
import MediaTransport.Text.Blank

namespace MediaTransport.Text

set_option autoImplicit false

/-- What a character is part of. -/
inductive Sequence where
  /-- No sequence. -/
  | none
  /-- Behind the escape character. -/
  | escape
  /-- An escape sequence that waits for its final character. -/
  | intermediate
  /-- A control sequence up to its final character. -/
  | control
  /-- A device string of which nothing has been read. -/
  | device
  /-- The parameters of a device string. -/
  | deviceParameters
  /-- A device string that waits for its final character. -/
  | deviceIntermediate
  /-- The contents of a string, and all of one that is ill formed. -/
  | string
  /-- A title or another command to the system. -/
  | title
  deriving DecidableEq, Repr

namespace Sequence

/-- Whether a character lies in a range of code points. -/
def between (first last : Nat) (c : Char) : Bool :=
  first ≤ c.toNat && c.toNat ≤ last

/-- What an escape character and one more begin. -/
def introduced (c : Char) : Sequence :=
  if c = '[' then .control
  else if c = ']' then .title
  else if c = 'P' then .device
  else if c = 'X' || c = '^' || c = '_' then .string
  else if between 0x20 0x2f c then .intermediate
  else if between 0x30 0x7e c then .none
  else .escape

/-- What the character after this one is part of. -/
def next (s : Sequence) (c : Char) : Sequence :=
  if c = '\x1b' then .escape
  else if c = '\x18' || c = '\x1a' then .none
  else
    match s with
    | .none => .none
    | .escape => introduced c
    | .intermediate => if between 0x30 0x7e c then .none else .intermediate
    | .control => if between 0x40 0x7e c then .none else .control
    | .device =>
      if between 0x20 0x2f c then .deviceIntermediate
      else if between 0x30 0x3f c then .deviceParameters
      else if between 0x40 0x7e c then .string
      else .device
    | .deviceParameters =>
      if between 0x20 0x2f c then .deviceIntermediate
      else if between 0x3c 0x7e c then .string
      else .deviceParameters
    | .deviceIntermediate =>
      if between 0x30 0x7e c then .string else .deviceIntermediate
    | .string => if (String.utf8EncodeChar c).contains 0x9c then .none else .string
    | .title => if c = '\x07' then .none else .title

/-- White space among the controls. -/
def isLayout (c : Char) : Bool :=
  c = '\t' || c = '\n' || c = '\x0c' || c = '\r'

/-- Whether a character is shown. -/
def shows (s : Sequence) (c : Char) : Bool :=
  match s with
  | .none => isLayout c || (0x20 ≤ c.toNat && c.toNat ≠ 0x7f)
  | .escape | .intermediate | .control => isLayout c
  | _ => false

/-- The characters that are shown.  While characters are being shown the sequence they
interrupt is kept, unless one lies beyond ASCII. -/
def strip (s : Sequence) (showing : Bool) : List Char → List Char
  | [] => []
  | c :: rest =>
    if shows (if showing then .none else s) c then
      c :: strip (if c.toNat < 0x80 then s else .none) true rest
    else strip (s.next c) false rest

end Sequence

/-- The text without control sequences. -/
def plain (text : String) : String :=
  String.ofList (Sequence.strip .none false text.toList)

/-- The first line; a carriage return before the line feed belongs to the end of the
line. -/
def firstLine (text : String) : String :=
  match text.splitOn "\n" with
  | line :: _ :: _ => if line.endsWith "\r" then (line.dropEnd 1).toString else line
  | _ => text

end MediaTransport.Text
