namespace FrameMachine

/-!
# Binary64 numbers

The floating-point numbers of the machine are those of the IEEE 754 format
`binary64`.  Every finite one is a whole number of units of `2 ^ -1074`, which
makes comparison and addition integer arithmetic, and every operation is an
exact result followed by one rounding to the nearest number of the format, a
tie going to the even mantissa.  Nothing here rests on the host's floating-point
unit.  The payload and the sign of a NaN are not kept.
-/

/-- The mantissas and scales in use.  A mantissa has at most 53 bits, and only
at the lowest scale may it have fewer. -/
def Binary64.Canonical (mantissa scale : Nat) : Prop :=
  mantissa < Nat.pow 2 53 ∧ scale ≤ 2045 ∧ (scale = 0 ∨ Nat.pow 2 52 ≤ mantissa)

instance (mantissa scale : Nat) : Decidable (Binary64.Canonical mantissa scale) :=
  inferInstanceAs (Decidable (_ ∧ _))

/-- A finite number: `mantissa * 2 ^ scale` units of `2 ^ -1074`, with a sign
that zero carries too. -/
structure Binary64.Finite where
  negative : Bool
  mantissa : Nat
  scale : Nat
  canonical : Binary64.Canonical mantissa scale
deriving DecidableEq

/-- A number of the format. -/
inductive Binary64 where
  | nan
  | infinite (negative : Bool)
  | finite (number : Binary64.Finite)
deriving DecidableEq

namespace Binary64

/-- How many units of `2 ^ -1074` make one, as a power of two. -/
def unitExponent : Nat := 1074

/-- The number one, in units. -/
def one : Nat := Nat.pow 2 unitExponent

namespace Finite

/-- The magnitude in units of `2 ^ -1074`. -/
def units (number : Finite) : Nat :=
  number.mantissa * Nat.pow 2 number.scale

/-- The value in units of `2 ^ -1074`. -/
def signedUnits (number : Finite) : Int :=
  if number.negative then -(number.units : Int) else number.units

end Finite

/-- The quotient of two natural numbers, rounded to the nearest whole number,
and to the even one of two that are equally near. -/
def roundQuotient (numerator denominator : Nat) : Nat :=
  let quotient := numerator / denominator
  let remainder := numerator % denominator
  if 2 * remainder < denominator then quotient
  else if denominator < 2 * remainder then quotient + 1
  else if quotient % 2 = 0 then quotient
  else quotient + 1

/-- The number with this mantissa and scale.  A scale beyond the format means
infinity. -/
def place (negative : Bool) (mantissa scale : Nat) : Binary64 :=
  if canonical : Canonical mantissa scale then
    .finite ⟨negative, mantissa, scale, canonical⟩
  else
    .infinite negative

/-- The number nearest to `numerator / denominator` units, a tie going to the
even mantissa. -/
def nearest (negative : Bool) (numerator denominator : Nat) : Binary64 :=
  let scale := (numerator / denominator).log2 - 52
  let mantissa := roundQuotient numerator (denominator * Nat.pow 2 scale)
  if mantissa = Nat.pow 2 53 then place negative (Nat.pow 2 52) (scale + 1)
  else place negative mantissa scale

/-- Zero with the given sign. -/
def zero (negative : Bool) : Binary64 :=
  .finite ⟨negative, 0, 0, by decide⟩

/-- The number nearest to an integer. -/
def ofInt (n : Int) : Binary64 :=
  nearest (decide (n < 0)) (n.natAbs * one) 1

/-- The number with the given bit pattern: a sign bit, eleven bits of biased
exponent and fifty-two bits of fraction. -/
def ofBits (bits : UInt64) : Binary64 :=
  let negative := decide (Nat.pow 2 63 ≤ bits.toNat)
  let exponent := bits.toNat / Nat.pow 2 52 % Nat.pow 2 11
  let fraction := bits.toNat % Nat.pow 2 52
  if exponent = 2047 then
    if fraction = 0 then .infinite negative else .nan
  else if exponent = 0 then place negative fraction 0
  else place negative (Nat.pow 2 52 + fraction) (exponent - 1)

/-- The bit pattern of a number.  Every NaN has the same one. -/
def toBits : Binary64 → UInt64
  | .nan => UInt64.ofNat (2047 * Nat.pow 2 52 + Nat.pow 2 51)
  | .infinite negative =>
      UInt64.ofNat ((if negative then Nat.pow 2 63 else 0) + 2047 * Nat.pow 2 52)
  | .finite number =>
      UInt64.ofNat ((if number.negative then Nat.pow 2 63 else 0) +
        (if number.mantissa < Nat.pow 2 52 then number.mantissa
          else (number.scale + 1) * Nat.pow 2 52 + (number.mantissa - Nat.pow 2 52)))

/-- Whether the number is a zero of either sign. -/
def isZero : Binary64 → Bool
  | .finite number => number.mantissa = 0
  | _ => false

/-- Whether the number is neither infinite nor a NaN. -/
def isFinite : Binary64 → Bool
  | .finite _ => true
  | _ => false

/-- Where a number stands among the others, in units.  An infinity stands
beyond every finite number, the two zeros stand together, and a NaN stands
nowhere. -/
def rank : Binary64 → Option Int
  | .nan => none
  | .infinite negative => some (if negative then -(Nat.pow 2 2098 : Nat) else (Nat.pow 2 2098 : Nat))
  | .finite number => some number.signedUnits

/-- The order of two numbers, unless one of them is a NaN. -/
def compare? (left right : Binary64) : Option Ordering :=
  match left.rank, right.rank with
  | some l, some r => some (compare l r)
  | _, _ => none

/-- Equality of numbers: the two zeros are equal, and a NaN equals nothing. -/
def equal (left right : Binary64) : Bool :=
  left.compare? right == some .eq

/-- The number with the other sign. -/
def neg : Binary64 → Binary64
  | .nan => .nan
  | .infinite negative => .infinite (!negative)
  | .finite number => .finite { number with negative := !number.negative }

end Binary64
end FrameMachine
