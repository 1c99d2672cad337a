/-
# MediaTransport.Decimal.Shortest -- the shortest text of a binary number

Of the decimal numerals that round to a given number, the one with the fewest digits is
chosen, and of several with as few digits the one nearest to the number, of two at the
same distance the one farther from zero.  A grid of decimals with a given number of
digits has a point in the interval of the reals that round to the number exactly if one
of the two neighbours of the number lies in it, so only these are tried.

The text is positional, without an exponent, and always has a point.
-/
import MediaTransport.Decimal.Binary64

namespace MediaTransport.Decimal

set_option autoImplicit false

/-- The reals that round to a number, as multiples of a common unit: the unit is two to
`exponent`, the number lies at `centre`. -/
structure Interval where
  low : Nat
  centre : Nat
  high : Nat
  exponent : Int
  /-- Whether the ends belong to it. -/
  closed : Bool

/-- The interval around a finite number.  Below a power of two the numbers are twice as
dense. -/
def Interval.around (significand : Nat) (exponent : Int) : Interval :=
  let lowest := significand = twoTo 52 ∧ Binary64.leastExponent < exponent
  { low := if lowest then 4 * significand - 1 else 4 * significand - 2
    centre := 4 * significand
    high := 4 * significand + 2
    exponent := exponent - 2
    closed := significand % 2 = 0 }

/-- A decimal `count` times ten to the `power`, measured in the unit of an interval: a
numerator over a common denominator with `Interval.scaled`. -/
def Interval.point (i : Interval) (count : Nat) (power : Int) : Nat :=
  count * tenTo power.toNat * twoTo (-i.exponent).toNat

/-- A multiple of the unit over the same denominator. -/
def Interval.scaled (i : Interval) (multiple : Nat) (power : Int) : Nat :=
  multiple * twoTo i.exponent.toNat * tenTo (-power).toNat

def Interval.contains (i : Interval) (count : Nat) (power : Int) : Bool :=
  let x := i.point count power
  let low := i.scaled i.low power
  let high := i.scaled i.high power
  if i.closed then low ≤ x && x ≤ high else low < x && x < high

/-- Position of the point relative to the first digit: the number lies below ten to it,
and not below a tenth of that. -/
def Interval.position (i : Interval) : Int :=
  let n := i.centre * twoTo i.exponent.toNat * tenTo 400 / twoTo (-i.exponent).toNat
  (digitCount n : Int) - 400

/-- The nearer of the two neighbours on a grid, of those inside the interval; halfway
between them, the one above. -/
def Interval.neighbour? (i : Interval) (power : Int) : Option Nat :=
  let below := i.scaled i.centre power / i.point 1 power
  let above := below + 1
  let fromBelow := i.scaled i.centre power - i.point below power
  let fromAbove := i.point above power - i.scaled i.centre power
  match i.contains below power, i.contains above power with
  | true, true => some (if fromBelow < fromAbove then below else above)
  | true, false => some below
  | false, true => some above
  | false, false => none

/-- The first grid with a neighbour inside the interval, from a number of digits on: the
decimal and the power of ten of its grid. -/
def Interval.shortest (i : Interval) (digits : Nat) : (tries : Nat) → Nat × Int
  | 0 => (0, 0)
  | tries + 1 =>
    let power := i.position - digits
    match i.neighbour? power with
    | some count => (count, power)
    | none => i.shortest (digits + 1) tries

/-- A decimal in positional notation with a point. -/
def positional (count : Nat) (power : Int) : List Char :=
  let digits := Nat.toDigits 10 count
  if 0 ≤ power then digits ++ List.replicate power.toNat '0' ++ ['.', '0']
  else
    let places := (-power).toNat
    let padded := List.replicate (places + 1 - digits.length) '0' ++ digits
    let whole := padded.take (padded.length - places)
    let fraction := padded.drop (padded.length - places)
    let kept := (fraction.reverse.dropWhile (· == '0')).reverse
    whole ++ '.' :: (if kept.isEmpty then ['0'] else kept)

/-- The number as text. -/
def Binary64.text : Binary64 → String
  | .nan => "NaN"
  | .infinite negative => if negative then "-inf" else "inf"
  | .finite negative significand exponent =>
    let magnitude :=
      if significand = 0 then ['0', '.', '0']
      else
        let (count, power) := (Interval.around significand exponent).shortest 1 17
        positional count power
    String.ofList (if negative then '-' :: magnitude else magnitude)

end MediaTransport.Decimal
