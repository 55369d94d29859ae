import FrameMachine.Binary64.Arithmetic
import FrameMachine.Numeral.Digits
import FrameMachine.Text.Blank

namespace FrameMachine
namespace Binary64

/-!
# Decimal numerals

Decimal numerals are read with one correct rounding.  Two decimal texts are
written: the fewest digits that still denote the number, padded with zeros and
never with an exponent, and a fixed number of places rounded from the exact
value with ties going to the even digit.
-/

/-- The number of decimal digits of a natural number, none for zero. -/
def digitCount (n : Nat) : Nat :=
  if n = 0 then 0 else (Nat.toDigits 10 n).length

/-- The number nearest to `digits * 10 ^ exponent`.  A value of `10 ^ 309` or more
is infinite and a value below `10 ^ -325` is zero, so powers of ten outside this
range are never formed. -/
def ofDecimal (digits : Nat) (exponent : Int) : Binary64 :=
  let top := exponent + digitCount digits
  if digits = 0 then zero false
  else if 310 ≤ top then .infinite false
  else if top ≤ -325 then zero false
  else if exponent < 0 then nearest false (digits * one) (Nat.pow 10 exponent.natAbs)
  else nearest false (digits * Nat.pow 10 exponent.natAbs * one) 1

/-- The exponent of a decimal numeral, after its `e`. -/
def decimalExponent? (text : List Char) : Option Int :=
  let (negative, digits) := Numeral.splitSign text
  (Numeral.natural? 10 digits).map (Numeral.signed negative)

/-- Digits with an optional point, at least one digit in all, and an optional
exponent. -/
def decimalDigits? (text : List Char) : Option Binary64 :=
  let (mantissa, tail) := Text.splitAtFirst (fun c => c == 'e' || c == 'E') text
  let exponent := match tail with
    | some digits => decimalExponent? digits
    | none => some 0
  let (whole, point) := Text.splitAtFirst (· == '.') mantissa
  let fraction := point.getD []
  match exponent, Numeral.natural? 10 (whole ++ fraction) with
  | some e, some digits => some (ofDecimal digits (e - fraction.length))
  | _, _ => none

/-- A decimal numeral without its sign, or one of the words for infinity and
NaN in any case. -/
def decimal? (text : List Char) : Option Binary64 :=
  if Text.sameIgnoringCase text "inf".toList ||
      Text.sameIgnoringCase text "infinity".toList then
    some (.infinite false)
  else if Text.sameIgnoringCase text "nan".toList then some .nan
  else decimalDigits? text

/-- The power of ten just above `numerator / denominator`, for a positive
quotient. -/
def decimalTop (numerator denominator : Nat) : Int :=
  if denominator ≤ numerator then digitCount (numerator / denominator)
  else 1 - (digitCount ((denominator - 1) / numerator) : Int)

/-- A decimal `digits * 10 ^ exponent`. -/
structure Decimal where
  digits : Nat
  exponent : Int
deriving DecidableEq

/-- The interval of the reals that round to a positive number, in quarters of
a unit, with the number itself.  The ends belong to it when the mantissa is
even. -/
structure Neighbourhood where
  low : Nat
  centre : Nat
  high : Nat
  closed : Bool

/-- The reals that round to a number.  Below a mantissa of exactly 53 bits with
one bit set the next number is only half as far away, unless the scale is the
lowest. -/
def Finite.neighbourhood (number : Finite) : Neighbourhood where
  low := 4 * number.units -
    (if number.mantissa = Nat.pow 2 52 ∧ 0 < number.scale then Nat.pow 2 number.scale
      else 2 * Nat.pow 2 number.scale)
  centre := 4 * number.units
  high := 4 * number.units + 2 * Nat.pow 2 number.scale
  closed := number.mantissa % 2 = 0

namespace Neighbourhood

/-- Whether `point / spread`, in quarters of a unit, lies in the interval. -/
def contains (around : Neighbourhood) (point spread : Nat) : Bool :=
  if around.closed then
    around.low * spread ≤ point && point ≤ around.high * spread
  else
    around.low * spread < point && point < around.high * spread

/-- The nearer of the two multiples of `10 ^ exponent` next to the centre that
lie in the interval, the upper one when both are equally near. -/
def onGrid (around : Neighbourhood) (exponent : Int) : Option Decimal :=
  let quarters := 4 * one
  let step := if exponent < 0 then quarters else quarters * Nat.pow 10 exponent.natAbs
  let spread := if exponent < 0 then Nat.pow 10 exponent.natAbs else 1
  let centre := around.centre * spread
  let below := centre / step
  let lower := around.contains (below * step) spread
  let upper := around.contains ((below + 1) * step) spread
  let upperNearer := (below + 1) * step - centre ≤ centre - below * step
  if upper && (!lower || upperNearer) then some ⟨below + 1, exponent⟩
  else if lower then some ⟨below, exponent⟩
  else none

/-- The first decimal found on ever finer grids. -/
def search (around : Neighbourhood) : (attempts : Nat) → Int → Decimal
  | 0, exponent => ⟨around.centre, exponent⟩
  | attempts + 1, exponent =>
      match around.onGrid exponent with
      | some decimal => decimal
      | none => around.search attempts (exponent - 1)

end Neighbourhood

/-- The decimal with the fewest digits that rounds to a positive number.
Seventeen digits always suffice. -/
def Finite.shortest (number : Finite) : Decimal :=
  let around := number.neighbourhood
  around.search 20 (decimalTop number.units one - 1)

/-- A decimal written without an exponent. -/
def Decimal.positional (decimal : Decimal) : String :=
  let digits := (Nat.toDigits 10 decimal.digits)
  if decimal.exponent < 0 then
    let places := decimal.exponent.natAbs
    let padded := List.replicate (places + 1 - digits.length) '0' ++ digits
    String.ofList (padded.take (padded.length - places) ++ '.' ::
      padded.drop (padded.length - places))
  else
    String.ofList (digits ++ List.replicate decimal.exponent.natAbs '0')

/-- The shortest decimal text of a number, without an exponent. -/
def shortestText : Binary64 → String
  | .nan => "NaN"
  | .infinite negative => (if negative then "-" else "") ++ "inf"
  | .finite number =>
      (if number.negative then "-" else "") ++
        (if number.mantissa = 0 then "0" else number.shortest.positional)

/-- The magnitude of a number with a fixed number of decimal places, rounded
from its exact value, a tie going to the even digit. -/
def Finite.fixedText (places : Nat) (number : Finite) : String :=
  (Decimal.mk (roundQuotient (number.units * Nat.pow 10 places) one) (-places)).positional

end Binary64
end FrameMachine
