/-
# MediaTransport.Text.Blank -- white space and trimming

`isBlank` is the property of white space in the Unicode standard: 25 characters,
the control characters from tab to carriage return and next line among them.  `trim`
takes blanks off both ends of a text and nothing else.
-/

namespace MediaTransport.Text

set_option autoImplicit false

/-- Whether a code point lies in one of a list of closed ranges. -/
def within (ranges : List (Nat × Nat)) (c : Char) : Bool :=
  ranges.any fun (first, last) => first ≤ c.toNat && c.toNat ≤ last

/-- The characters of white space. -/
def blanks : List (Nat × Nat) :=
  [(0x9, 0xd), (0x20, 0x20), (0x85, 0x85), (0xa0, 0xa0), (0x1680, 0x1680),
    (0x2000, 0x200a), (0x2028, 0x2029), (0x202f, 0x202f), (0x205f, 0x205f),
    (0x3000, 0x3000)]

def isBlank (c : Char) : Bool :=
  within blanks c

/-- Takes the blanks off both ends. -/
def trimChars (text : List Char) : List Char :=
  ((text.dropWhile isBlank).reverse.dropWhile isBlank).reverse

/-- Takes the blanks off both ends. -/
def trim (text : String) : String :=
  String.ofList (trimChars text.toList)

end MediaTransport.Text
