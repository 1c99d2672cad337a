/-
# MediaTransport.Decimal.Binary64 -- decimal numerals as binary numbers

A `Numeral` is a decimal numeral, exactly.  `Binary64.ofNumeral` rounds it to the
nearest number with 53 significant bits, ties to the even one; what lies beyond the
largest is infinite.  All arithmetic is exact, on natural numbers: a fraction is rounded
once (`roundHalfEven`).
-/

namespace MediaTransport.Decimal

set_option autoImplicit false

/-- A decimal numeral: `digits` times ten to the `exponent`, with a sign. -/
structure Numeral where
  negative : Bool
  digits : Nat
  exponent : Int
  deriving DecidableEq, Repr

/-- A binary number of double precision; a finite one is its significand times two to
its exponent. -/
inductive Binary64 where
  | finite (negative : Bool) (significand : Nat) (exponent : Int)
  | infinite (negative : Bool)
  | nan
  deriving DecidableEq, Repr

/-! ## Reading numerals -/

def isDigit (c : Char) : Bool :=
  '0' ≤ c && c ≤ '9'

/-- The number that decimal digits spell. -/
def digitsValue (digits : List Char) : Nat :=
  digits.foldl (fun value c => value * 10 + (c.toNat - '0'.toNat)) 0

/-- Takes a sign off the front; says whether it was a minus. -/
def splitSign : List Char → Bool × List Char
  | '-' :: rest => (true, rest)
  | '+' :: rest => (false, rest)
  | text => (false, text)

/-- Reads the exponent that ends a numeral, zero if nothing is left. -/
def exponent? : List Char → Option Int
  | [] => some 0
  | c :: rest =>
    if c = 'e' ∨ c = 'E' then
      let (negative, digits) := splitSign rest
      if digits.isEmpty || !digits.all isDigit then none
      else if negative then some (-(digitsValue digits : Int))
      else some (digitsValue digits : Int)
    else none

/-- Takes the digits after a point off the front. -/
def splitFraction : List Char → List Char × List Char
  | '.' :: rest => (rest.takeWhile isDigit, rest.dropWhile isDigit)
  | text => ([], text)

/-- Reads a whole text as a decimal numeral: digits, of which some may stand after a
point, and an exponent. -/
def Numeral.parse (text : List Char) : Option Numeral :=
  let (negative, text) := splitSign text
  let whole := text.takeWhile isDigit
  let (fraction, rest) := splitFraction (text.dropWhile isDigit)
  if whole.isEmpty && fraction.isEmpty then none
  else
    (exponent? rest).map fun exponent =>
      { negative
        digits := digitsValue (whole ++ fraction)
        exponent := exponent - fraction.length }

/-! ## Rounding -/

/-- The quotient of two numbers, rounded to the nearest whole number, a half to the even
one. -/
def roundHalfEven (n d : Nat) : Nat :=
  let quotient := n / d
  let twice := 2 * (n % d)
  if twice < d then quotient
  else if d < twice then quotient + 1
  else quotient + quotient % 2

/-- Two to a power. -/
def twoTo (power : Nat) : Nat :=
  Nat.pow 2 power

/-- Ten to a power. -/
def tenTo (power : Nat) : Nat :=
  Nat.pow 10 power

/-- Number of decimal digits, at least one. -/
def digitCount (n : Nat) : Nat :=
  (Nat.toDigits 10 n).length

namespace Binary64

/-- Significant bits. -/
def precision : Nat := 53

/-- The exponent of the smallest numbers. -/
def leastExponent : Int := -1074

/-- The largest exponent that a significand of full length may have. -/
def greatestExponent : Int := 971

/-- The binary number nearest to a fraction. -/
def ofFraction (negative : Bool) (n d : Nat) : Binary64 :=
  if n = 0 then .finite negative 0 leastExponent
  else
    let scale : Int := (Nat.log2 n : Int) - Nat.log2 d - precision
    let exponentFor (q : Int) : Nat :=
      roundHalfEven (n * twoTo (-q).toNat) (d * twoTo q.toNat)
    let rough := max leastExponent scale
    let q := if exponentFor rough < twoTo precision then rough else rough + 1
    let significand := exponentFor q
    let full := significand = twoTo precision
    let significand := if full then significand / 2 else significand
    let q := if full then q + 1 else q
    if greatestExponent < q then .infinite negative else .finite negative significand q

/-- The binary number nearest to a decimal numeral.  Numerals far outside the range are
told by the position of their first digit. -/
def ofNumeral (x : Numeral) : Binary64 :=
  let position := x.exponent + digitCount x.digits
  if x.digits = 0 ∨ position < -400 then .finite x.negative 0 leastExponent
  else if 400 < position then .infinite x.negative
  else
    ofFraction x.negative (x.digits * tenTo x.exponent.toNat) (tenTo (-x.exponent).toNat)

/-- A natural number, which has to fit the precision. -/
def ofNat (n : Nat) : Binary64 :=
  ofFraction false n 1

def isFinite : Binary64 → Bool
  | .finite _ _ _ => true
  | _ => false

/-- The whole part of a number as a natural number up to a bound: fractions are cut, what
is negative or no number becomes zero and what is too large becomes the bound. -/
def saturate (bound : Nat) : Binary64 → Nat
  | .finite false significand exponent =>
    min bound (significand * twoTo exponent.toNat / twoTo (-exponent).toNat)
  | .infinite false => bound
  | _ => 0

end Binary64

end MediaTransport.Decimal
