/-
# MediaTransport.Json5.Reader -- from text to tree

The grammar is that of JSON with comments, unquoted keys, single quotation marks, more
escapes, one trailing comma, and hexadecimal, signed, open-ended and non-finite numbers.
A text is read as a whole or not at all: `Value.parse` answers `none` for a text outside
the grammar and does not say where it fails.

Every reader takes a cursor, the rest of the text with its place, and answers with the
cursor behind what it has read.  The readers of nested values take a bound on the number
of steps; a text never needs more of them than it has characters, twice over.
-/
import MediaTransport.Json5.Value
import MediaTransport.Text.Letter

namespace MediaTransport.Json5

set_option autoImplicit false

/-- The rest of a text and the place where it starts. -/
structure Cursor where
  rest : List Char
  mark : Mark

/-- The cursor behind some characters, given the text behind them. -/
def Cursor.past (c : Cursor) (read rest : List Char) : Cursor :=
  ⟨rest, read.foldl Mark.after c.mark⟩

/-! ## Characters -/

/-- Characters that end a line. -/
def isLineEnd (c : Char) : Bool :=
  c = '\n' || c = '\r' || c = '\u2028' || c = '\u2029'

/-- Characters between tokens that are no line ends. -/
def spaces : List (Nat × Nat) :=
  [(0x9, 0x9), (0xb, 0xc), (0x20, 0x20), (0xa0, 0xa0), (0x1680, 0x1680),
    (0x2000, 0x200a), (0x202f, 0x202f), (0x205f, 0x205f), (0x3000, 0x3000),
    (0xfeff, 0xfeff)]

def isSpace (c : Char) : Bool :=
  isLineEnd c || Text.within spaces c

/-- Characters that an identifier may start with. -/
def startsIdentifier (c : Char) : Bool :=
  c = '$' || c = '_' || Text.isLetter c

/-- Characters that an identifier may go on with. -/
def continuesIdentifier (c : Char) : Bool :=
  startsIdentifier c || c = '\u200c' || c = '\u200d' || Text.isMark c

/-- The value of a hexadecimal digit. -/
def hexDigit? (c : Char) : Option Nat :=
  if '0' ≤ c ∧ c ≤ '9' then some (c.toNat - '0'.toNat)
  else if 'a' ≤ c ∧ c ≤ 'f' then some (c.toNat - 'a'.toNat + 10)
  else if 'A' ≤ c ∧ c ≤ 'F' then some (c.toNat - 'A'.toNat + 10)
  else none

def isHexDigit (c : Char) : Bool :=
  (hexDigit? c).isSome

def isDigit (c : Char) : Bool :=
  '0' ≤ c && c ≤ '9'

/-- The number that hexadecimal digits spell. -/
def hexValue (digits : List Char) : Nat :=
  digits.foldl (fun value c => value * 16 + (hexDigit? c).getD 0) 0

/-- The character with a code point; code points of half characters have none. -/
def charOf? (code : Nat) : Option Char :=
  if h : code.isValidChar then some (Char.ofNatAux code h) else none

/-! ## Between tokens -/

/-- What surrounds the next character. -/
inductive Surroundings where
  | plain
  /-- A comment that ends with the line. -/
  | line
  /-- A comment that has to be closed; the place to go back to if it is not. -/
  | block (opening : Cursor)

/-- Passes spaces and comments.  A comment that is never closed is not passed. -/
def skipFrom : Surroundings → List Char → Mark → Cursor
  | .plain, [], mark => ⟨[], mark⟩
  | .plain, '/' :: '/' :: rest, mark => skipFrom .line rest ((mark.after '/').after '/')
  | .plain, '/' :: '*' :: rest, mark =>
    skipFrom (.block ⟨'/' :: '*' :: rest, mark⟩) rest ((mark.after '/').after '*')
  | .plain, c :: rest, mark =>
    if isSpace c then skipFrom .plain rest (mark.after c) else ⟨c :: rest, mark⟩
  | .line, [], mark => ⟨[], mark⟩
  | .line, c :: rest, mark =>
    skipFrom (if isLineEnd c then .plain else .line) rest (mark.after c)
  | .block opening, [], _ => opening
  | .block _, '*' :: '/' :: rest, mark => skipFrom .plain rest ((mark.after '*').after '/')
  | .block opening, c :: rest, mark => skipFrom (.block opening) rest (mark.after c)

def skip (c : Cursor) : Cursor :=
  skipFrom .plain c.rest c.mark

/-- Reads one given character. -/
def expect (wanted : Char) (c : Cursor) : Option Cursor :=
  match c.rest with
  | found :: rest => if found = wanted then some ⟨rest, c.mark.after found⟩ else none
  | [] => none

/-- Reads a given word. -/
def word? (wanted : List Char) (c : Cursor) : Option Cursor :=
  if wanted.isPrefixOf c.rest then some (c.past wanted (c.rest.drop wanted.length)) else none

/-! ## Strings and keys -/

/-- What an escape contributes to a string: a character, nothing, or a code point that is
no character. -/
inductive Piece where
  | char (c : Char)
  | nothing
  | noChar

/-- The piece of four hexadecimal digits. -/
def codePiece (digits : List Char) : Piece :=
  match charOf? (hexValue digits) with
  | some c => .char c
  | none => .noChar

/-- The content of pieces, unless one of them is no character. -/
def contentOf (pieces : List Piece) : Option String :=
  let join := fun (piece : Piece) (content : Option (List Char)) =>
    match piece, content with
    | .char c, some chars => some (c :: chars)
    | .nothing, some chars => some chars
    | _, _ => none
  (pieces.foldr join (some [])).map String.ofList

/-- What a letter behind a backslash stands for, if it is no digit and neither of the two
letters that introduce a code point. -/
def simpleEscape (c : Char) : Char :=
  match c with
  | 'b' => '\x08'
  | 'f' => '\x0c'
  | 'n' => '\n'
  | 'r' => '\r'
  | 't' => '\t'
  | 'v' => '\x0b'
  | other => other

/-- Reads up to the closing quotation mark; answers the pieces and the rest. -/
def stringPieces (quote : Char) : List Char → Option (List Piece × List Char)
  | [] => none
  | '\\' :: '\r' :: '\n' :: rest =>
    (stringPieces quote rest).map fun (pieces, rest) => (.nothing :: pieces, rest)
  | '\\' :: 'x' :: a :: b :: rest =>
    if isHexDigit a && isHexDigit b then
      (stringPieces quote rest).map fun (pieces, rest) => (codePiece [a, b] :: pieces, rest)
    else none
  | '\\' :: 'u' :: a :: b :: c :: d :: rest =>
    if isHexDigit a && isHexDigit b && isHexDigit c && isHexDigit d then
      (stringPieces quote rest).map fun (pieces, rest) =>
        (codePiece [a, b, c, d] :: pieces, rest)
    else none
  | '\\' :: c :: rest =>
    if c = 'x' ∨ c = 'u' then none
    else if c = '0' then
      (stringPieces quote rest).map fun (pieces, rest) => (.char '\x00' :: pieces, rest)
    else if isDigit c then none
    else if isLineEnd c then
      (stringPieces quote rest).map fun (pieces, rest) => (.nothing :: pieces, rest)
    else
      (stringPieces quote rest).map fun (pieces, rest) =>
        (.char (simpleEscape c) :: pieces, rest)
  | c :: rest =>
    if c = quote then some ([], rest)
    else if c = '\\' || isLineEnd c then none
    else (stringPieces quote rest).map fun (pieces, rest) => (.char c :: pieces, rest)

/-- The cursor at a rest of the text of a cursor. -/
def Cursor.at (c : Cursor) (rest : List Char) : Cursor :=
  c.past (c.rest.take (c.rest.length - rest.length)) rest

/-- Reads a string in quotation marks of either kind. -/
def string? (c : Cursor) : Option (Option String × Cursor) :=
  match c.rest with
  | quote :: rest =>
    if quote = '"' ∨ quote = '\'' then
      (stringPieces quote rest).map fun (pieces, rest) => (contentOf pieces, c.at rest)
    else none
  | [] => none

/-- Reads the characters of an identifier for as long as it goes on. -/
def identifierPieces (first : Bool) : List Char → List Piece × List Char
  | [] => ([], [])
  | '\\' :: 'u' :: a :: b :: c :: d :: rest =>
    if isHexDigit a && isHexDigit b && isHexDigit c && isHexDigit d then
      let (pieces, rest) := identifierPieces false rest
      (codePiece [a, b, c, d] :: pieces, rest)
    else ([], '\\' :: 'u' :: a :: b :: c :: d :: rest)
  | c :: rest =>
    if if first then startsIdentifier c else continuesIdentifier c then
      let (pieces, rest) := identifierPieces false rest
      (.char c :: pieces, rest)
    else ([], c :: rest)

/-- Reads a key: an identifier or a string. -/
def key? (c : Cursor) : Option (Key × Cursor) :=
  match identifierPieces true c.rest with
  | ([], _) => (string? c).map fun (content, after) => (⟨c.mark, content⟩, after)
  | (pieces, rest) => some (⟨c.mark, contentOf pieces⟩, c.at rest)

/-! ## Numbers -/

/-- Takes a decimal whole number off the front: a zero, or digits without a zero in
front. -/
def splitWhole : List Char → Option (List Char × List Char)
  | '0' :: rest => some (['0'], rest)
  | c :: rest =>
    if isDigit c then some (c :: rest.takeWhile isDigit, rest.dropWhile isDigit) else none
  | [] => none

/-- Takes an exponent off the front, if there is one. -/
def splitExponent (text : List Char) : List Char × List Char :=
  match text with
  | e :: rest =>
    if e = 'e' ∨ e = 'E' then
      let (sign, digits) := match rest with
        | '+' :: digits => (['+'], digits)
        | '-' :: digits => (['-'], digits)
        | digits => ([], digits)
      match digits.takeWhile isDigit with
      | [] => ([], text)
      | power => (e :: sign ++ power, digits.dropWhile isDigit)
    else ([], text)
  | [] => ([], text)

/-- Takes a decimal number without sign off the front. -/
def splitDecimal (text : List Char) : Option (List Char × List Char) :=
  match splitWhole text with
  | some (whole, '.' :: rest) =>
    let (power, after) := splitExponent (rest.dropWhile isDigit)
    some (whole ++ '.' :: rest.takeWhile isDigit ++ power, after)
  | some (whole, rest) =>
    let (power, after) := splitExponent rest
    some (whole ++ power, after)
  | none =>
    match text with
    | '.' :: rest =>
      match rest.takeWhile isDigit with
      | [] => none
      | fraction =>
        let (power, after) := splitExponent (rest.dropWhile isDigit)
        some ('.' :: fraction ++ power, after)
    | _ => none

/-- Takes a hexadecimal number without sign off the front. -/
def splitHex : List Char → Option (List Char × List Char)
  | '0' :: x :: rest =>
    if x = 'x' ∨ x = 'X' then
      match rest.takeWhile isHexDigit with
      | [] => none
      | digits => some ('0' :: x :: digits, rest.dropWhile isHexDigit)
    else none
  | _ => none

/-- Takes one of the names of non-finite numbers off the front. -/
def splitName (text : List Char) : Option (List Char × List Char) :=
  let names := ["Infinity".toList, "NaN".toList]
  (names.find? (·.isPrefixOf text)).map fun name => (name, text.drop name.length)

/-- Takes a number without sign off the front. -/
def splitUnsigned (text : List Char) : Option (List Char × List Char) :=
  ((splitHex text).orElse fun _ => splitDecimal text).orElse fun _ => splitName text

/-- Reads a number. -/
def number? (c : Cursor) : Option (List Char × Cursor) :=
  let (sign, unsigned) := match c.rest with
    | '+' :: rest => (['+'], rest)
    | '-' :: rest => (['-'], rest)
    | rest => ([], rest)
  (splitUnsigned unsigned).map fun (text, rest) =>
    (sign ++ text, c.past (sign ++ text) rest)

/-! ## Values -/

mutual

/-- Reads a value. -/
def value? : Nat → Cursor → Option (Value × Cursor)
  | 0, _ => none
  | steps + 1, c =>
    match c.rest with
    | '[' :: rest =>
      let inside := skip ⟨rest, c.mark.after '['⟩
      match expect ']' inside with
      | some after => some (.array c.mark [], after)
      | none => (items? steps inside).map fun (items, after) => (.array c.mark items, after)
    | '\x7b' :: rest =>
      let inside := skip ⟨rest, c.mark.after '\x7b'⟩
      match expect '\x7d' inside with
      | some after => some (.object c.mark [], after)
      | none =>
        (members? steps inside).map fun (members, after) => (.object c.mark members, after)
    | _ =>
      match word? "null".toList c with
      | some after => some (.null c.mark, after)
      | none =>
        match word? "true".toList c with
        | some after => some (.bool c.mark true, after)
        | none =>
          match word? "false".toList c with
          | some after => some (.bool c.mark false, after)
          | none =>
            match string? c with
            | some (content, after) => some (.string c.mark content, after)
            | none => (number? c).map fun (text, after) => (.number c.mark text, after)

/-- Reads the items of an array from the first one on, up to the closing bracket. -/
def items? : Nat → Cursor → Option (List Value × Cursor)
  | 0, _ => none
  | steps + 1, c =>
    match value? steps c with
    | none => none
    | some (item, after) =>
      let after := skip after
      match expect ']' after with
      | some closed => some ([item], closed)
      | none =>
        match expect ',' after with
        | none => none
        | some next =>
          let next := skip next
          match expect ']' next with
          | some closed => some ([item], closed)
          | none => (items? steps next).map fun (items, after) => (item :: items, after)

/-- Reads the members of an object from the first one on, up to the closing brace. -/
def members? : Nat → Cursor → Option (List (Key × Value) × Cursor)
  | 0, _ => none
  | steps + 1, c =>
    match key? c with
    | none => none
    | some (key, after) =>
      match expect ':' (skip after) with
      | none => none
      | some after =>
        match value? steps (skip after) with
        | none => none
        | some (value, after) =>
          let after := skip after
          match expect '\x7d' after with
          | some closed => some ([(key, value)], closed)
          | none =>
            match expect ',' after with
            | none => none
            | some next =>
              let next := skip next
              match expect '\x7d' next with
              | some closed => some ([(key, value)], closed)
              | none =>
                (members? steps next).map fun (members, after) =>
                  ((key, value) :: members, after)

end

/-- Reads a whole text as one value. -/
def Value.parse (text : String) : Option Value :=
  let chars := text.toList
  match value? (2 * chars.length + 2) (skip ⟨chars, Mark.start⟩) with
  | some (value, after) => if (skip after).rest.isEmpty then some value else none
  | none => none

end MediaTransport.Json5
