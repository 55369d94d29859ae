import FrameMachine.Binary64.Arithmetic
import FrameMachine.Numeral.Integer

namespace FrameMachine
namespace Binary64

/-!
# Hexadecimal floating-point numerals

The canonical text of a finite number other than zero is a leading digit, the
fifty-two fraction bits as thirteen hexadecimal digits, and a binary exponent:
three is `0x1.8000000000000p+1`.  The leading digit is `0` for the numbers below
the smallest full mantissa and `1` for all others.

A numeral that is read may have any number of digits on either side of the
point.  Its digits are gathered into a mantissa until that mantissa reaches
`2 ^ 59`.  A later digit only moves the exponent and, unless it is zero, makes the
mantissa odd, so that the rounding which follows still sees it.
-/

/-- The `width` lowest hexadecimal digits of `n`, most significant first. -/
def hexDigits : (width : Nat) → (n : Nat) → List Char
  | 0, _ => []
  | width + 1, n => hexDigits width (n / 16) ++ [Nat.digitChar (n % 16)]

/-- The text of a sign. -/
def signText (negative : Bool) : String :=
  if negative then "-" else ""

/-- The text of a binary exponent, always with its sign. -/
def exponentText (exponent : Int) : String :=
  (if exponent < 0 then "-" else "+") ++ toString exponent.natAbs

/-- The leading digit, the fraction and the exponent of a finite number. -/
def Finite.parts (number : Finite) : Nat × Nat × Int :=
  if number.mantissa < Nat.pow 2 52 then (0, number.mantissa, -1022)
  else (1, number.mantissa - Nat.pow 2 52, (number.scale : Int) - 1022)

/-- The canonical text of a number. -/
def text : Binary64 → String
  | .nan => "nan"
  | .infinite negative => signText negative ++ "inf"
  | .finite number =>
      if number.mantissa = 0 then signText number.negative ++ "0x0.0p+0"
      else
        let (lead, fraction, exponent) := number.parts
        signText number.negative ++ "0x" ++ toString lead ++ "." ++
          String.ofList (hexDigits 13 fraction) ++ "p" ++ exponentText exponent

/-- What is left of a numeral when its digits have been gathered: its value is
about `mantissa * 2 ^ exponent`. -/
structure Gathered where
  mantissa : Nat
  exponent : Int
deriving DecidableEq

namespace Gathered

/-- A mantissa from here on takes no further digits. -/
def limit : Nat := Nat.pow 2 59

/-- The mantissa, made odd by a digit that is dropped and is not zero. -/
def mark (mantissa digit : Nat) : Nat :=
  if digit = 0 then mantissa else mantissa / 2 * 2 + 1

/-- Gather a digit in front of the point. -/
def whole (gathered : Gathered) (digit : Nat) : Gathered :=
  if gathered.mantissa < limit then
    { gathered with mantissa := gathered.mantissa * 16 + digit }
  else
    ⟨mark gathered.mantissa digit, gathered.exponent + 4⟩

/-- Gather a digit behind the point. -/
def fraction (gathered : Gathered) (digit : Nat) : Gathered :=
  if gathered.mantissa < limit then
    ⟨gathered.mantissa * 16 + digit, gathered.exponent - 4⟩
  else
    { gathered with mantissa := mark gathered.mantissa digit }

/-- Gather all digits of a numeral whose exponent is given. -/
def ofDigits (wholeDigits fractionDigits : List Nat) (exponent : Int) : Gathered :=
  fractionDigits.foldl fraction (wholeDigits.foldl whole ⟨0, exponent⟩)

end Gathered

/-- The product with `2 ^ exponent`, in steps of at most `2 ^ 1000`, each of which
is rounded.  A result below the full mantissas may so be rounded twice. -/
def scaleInSteps (number : Binary64) (exponent : Int) : Binary64 :=
  if exponent = 0 ∨ number.isZero = true ∨ number.isFinite = false then number
  else
    let step := max (-1000) (min 1000 exponent)
    scaleInSteps (number.timesPowerOfTwo step) (exponent - step)
termination_by exponent.natAbs
decreasing_by omega

/-- The number that a gathered numeral denotes. -/
def Gathered.number (gathered : Gathered) : Binary64 :=
  scaleInSteps (ofInt gathered.mantissa) gathered.exponent

/-- An exponent: one optional sign and decimal digits, within 64 bits. -/
def exponent? (text : List Char) : Option Int :=
  let (negative, digits) := Numeral.splitSign text
  match Numeral.natural? 10 digits with
  | some magnitude => (Numeral.int64? (Numeral.signed negative magnitude)).map Int64.toInt
  | none => none

/-- The digits and exponent of a hexadecimal numeral after `0x`. -/
def gather? (text : List Char) : Option Gathered :=
  let (mantissa, tail) := Text.splitAtFirst (fun c => c == 'p' || c == 'P') text
  let exponent := match tail with
    | some digits => exponent? digits
    | none => some 0
  let (whole, point) := Text.splitAtFirst (· == '.') mantissa
  let fraction := point.getD []
  if whole.isEmpty && fraction.isEmpty then none
  else
    match exponent, Numeral.digits? 16 whole, Numeral.digits? 16 fraction with
    | some e, some w, some f => some (Gathered.ofDigits w f e)
    | _, _, _ => none

end Binary64
end FrameMachine
