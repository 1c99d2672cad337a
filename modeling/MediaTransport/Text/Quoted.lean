/-
# MediaTransport.Text.Quoted -- a text between quotation marks

Quotation marks and backslashes are escaped, as are the five controls that have a
short escape; a character without a shape of its own, or one that would join the
character before it, is written as its code point.  Everything else stands for
itself, the apostrophe too.
-/
import MediaTransport.Text.Visible

namespace MediaTransport.Text

set_option autoImplicit false

/-- The escape of a code point: its hexadecimal digits, lower case, in braces. -/
def codePointEscape (c : Char) : List Char :=
  ['\\', 'u', '\x7b'] ++ Nat.toDigits 16 c.toNat ++ ['\x7d']

/-- A character as it is written inside quotation marks. -/
def escapeChar (c : Char) : List Char :=
  if c = '\x00' then ['\\', '0']
  else if c = '\t' then ['\\', 't']
  else if c = '\r' then ['\\', 'r']
  else if c = '\n' then ['\\', 'n']
  else if c = '\\' then ['\\', '\\']
  else if c = '"' then ['\\', '"']
  else if isExtender c then codePointEscape c
  else if isPrintable c then [c]
  else codePointEscape c

/-- The text between quotation marks. -/
def quoted (text : String) : String :=
  String.ofList ('"' :: text.toList.flatMap escapeChar ++ ['"'])

end MediaTransport.Text
