import FrameMachine.Proofs.FloatText
import Mathlib.Algebra.Field.Rat
import Mathlib.Logic.Relation

namespace FrameMachine
namespace Binary64

/-!
# Bit patterns and their texts

The fields of a bit pattern say which number it is: the exponent tells the finite patterns from
the others, and a finite one has a magnitude that is a rational number.  The text of a pattern
is read as the same pattern, except that a NaN becomes some NaN.  For finite patterns the text
is a hexadecimal numeral, and nothing is rounded while it is read.  The mantissa that its digits
give fits into the format, mantissa and exponent denote the magnitude, and the numbers which the
passes of scaling go through are the exact products.
-/

/-! ## Values -/

/-- The magnitude of a finite pattern.  The lowest exponent stands for the same power of two as
the next. -/
def Pattern.magnitude (bits : UInt64) : ℚ :=
  (significand bits : ℚ) * 2 ^ (max 1 (exponentField bits : ℤ) - 1075)

/-- The value of a finite number. -/
def Finite.value (number : Finite) : ℚ :=
  (number.signedUnits : ℚ) * 2 ^ (-(unitExponent : ℤ))

/-- Units are turned into ones by lowering the exponent. -/
theorem mul_pow_units (mantissa power : Nat) :
    ((mantissa * Nat.pow 2 power : Nat) : ℚ) * 2 ^ (-(unitExponent : ℤ)) =
      mantissa * 2 ^ ((power : ℤ) - unitExponent) := by
  rw [sub_eq_add_neg, zpow_add₀ (by decide : (2 : ℚ) ≠ 0), zpow_natCast, ← mul_assoc]
  rw [Nat.pow_eq, Nat.cast_mul, Nat.cast_pow, Nat.cast_ofNat]

theorem Finite.value_of_units {x : Finite} (positive : x.negative = false) {mantissa power : Nat}
    (units : x.units = mantissa * Nat.pow 2 power) :
    x.value = mantissa * 2 ^ ((power : ℤ) - unitExponent) := by
  rw [value, signedUnits, positive, if_neg Bool.false_ne_true, units, Int.cast_natCast,
    mul_pow_units]

/-- The magnitude that the fields of a pattern give is the one of its number. -/
theorem magnitude_eq_units {bits : UInt64} {number : Finite}
    (mantissa : number.mantissa = Pattern.significand bits)
    (scale : number.scale = Pattern.exponentField bits - 1) :
    Pattern.magnitude bits = (number.units : ℚ) * 2 ^ (-(unitExponent : ℤ)) := by
  have exponent : max 1 (Pattern.exponentField bits : ℤ) - 1075 =
      (number.scale : ℤ) - unitExponent := by
    have range : (unitExponent : ℤ) = 1074 := rfl
    omega
  rw [Finite.units, mul_pow_units, Pattern.magnitude, mantissa, exponent]

/-- A gathered numeral denotes the magnitude of a number in the ordinary sense. -/
theorem Gathered.Denotes.mul_pow_eq {gathered : Gathered} {number : Finite}
    (denotes : gathered.Denotes number) :
    (gathered.mantissa : ℚ) * 2 ^ gathered.exponent =
      (number.units : ℚ) * 2 ^ (-(unitExponent : ℤ)) := by
  rcases denotes.placed with ⟨target, total, -, units⟩
  have exponent : gathered.exponent = (target : ℤ) - unitExponent := by omega
  rw [units, mul_pow_units, exponent]

/-! ## The passes of scaling -/

/-- One pass of scaling in steps.  It takes the number in hand and what is left of the exponent
to the next two, unless there is nothing to do. -/
inductive ScalePass : Binary64 × Int → Binary64 × Int → Prop
  | step {number : Binary64} {exponent : Int} (going : exponent ≠ 0)
      (nonzero : number.isZero = false) (finite : number.isFinite = true) :
      ScalePass (number, exponent)
        (number.timesPowerOfTwo (scaleStep exponent), exponent - scaleStep exponent)

/-- The numbers that scaling goes through. -/
def ScaleReaches : Binary64 × Int → Binary64 × Int → Prop :=
  Relation.ReflTransGen ScalePass

/-- What scaling makes of a number and what is left of the exponent. -/
def scaled : Binary64 × Int → Binary64
  | (number, exponent) => number.scaleInSteps exponent

theorem ScalePass.scaled_eq {before after : Binary64 × Int} (pass : ScalePass before after) :
    scaled after = scaled before := by
  cases pass with
  | @step number exponent going nonzero finite =>
      have unfinished : ¬ (exponent = 0 ∨ number.isZero = true ∨ number.isFinite = false) := by
        simp [going, nonzero, finite]
      rw [scaled, scaled, scaleInSteps_eq number, if_neg unfinished]

/-- Wherever scaling has come, it goes on to the same result. -/
theorem ScaleReaches.scaled_eq {start reached : Binary64 × Int}
    (reaches : ScaleReaches start reached) : scaled reached = scaled start := by
  induction reaches with
  | refl => rfl
  | tail _ pass inductionHypothesis => exact pass.scaled_eq.trans inductionHypothesis

/-- The result of scaling is the last number that it goes through. -/
theorem exists_scaleReaches (number : Binary64) (exponent : Int) :
    ∃ left, ScaleReaches (number, exponent) (number.scaleInSteps exponent, left) := by
  induction number, exponent using scaleInSteps.induct with
  | case1 number exponent finished =>
      rw [scaleInSteps_eq, if_pos finished]
      exact ⟨exponent, Relation.ReflTransGen.refl⟩
  | case2 number exponent unfinished step inductionHypothesis =>
      rcases inductionHypothesis with ⟨left, reaches⟩
      rw [scaleInSteps_eq, if_neg unfinished]
      simp only [not_or, Bool.not_eq_true, Bool.not_eq_false] at unfinished
      have pass := ScalePass.step unfinished.1 unfinished.2.1 unfinished.2.2
      exact ⟨left, Relation.ReflTransGen.head pass reaches⟩

/-- A number in hand that is exact: it is on its way and has not lost its sign. -/
def InHand (mantissa target : Nat) : Binary64 × Int → Prop
  | (number, left) =>
      ∃ x : Finite, number = .finite x ∧ x.negative = false ∧ OnTheWay mantissa target x left

section InHand

variable {mantissa target : Nat} {before after : Binary64 × Int}

theorem ScalePass.inHand (pass : ScalePass before after) (small : mantissa < Nat.pow 2 53)
    (within : target ≤ 2045) (hand : InHand mantissa target before) :
    InHand mantissa target after := by
  cases pass with
  | step going nonzero finite =>
      rcases hand with ⟨x, rfl, positive, way⟩
      rcases way.step small within with ⟨y, product, sign, further⟩
      exact ⟨y, product, sign.trans positive, further⟩

theorem ScaleReaches.inHand (reaches : ScaleReaches before after) (small : mantissa < Nat.pow 2 53)
    (within : target ≤ 2045) (hand : InHand mantissa target before) :
    InHand mantissa target after := by
  induction reaches with
  | refl => exact hand
  | tail _ pass inductionHypothesis => exact pass.inHand small within inductionHypothesis

end InHand

/-- Whether a gathered numeral is scaled without any rounding: its number is the last of those
that scaling goes through, and each of them is the product of the mantissa with the power of two
that has been dealt with. -/
structure Gathered.ScalesExactly (gathered : Gathered) : Prop where
  arrives : ∃ left, ScaleReaches (ofInt gathered.mantissa, gathered.exponent)
    (gathered.number, left)
  exact : ∀ number left,
    ScaleReaches (ofInt gathered.mantissa, gathered.exponent) (number, left) →
      number.scaleInSteps left = gathered.number ∧
      ∃ x : Finite, number = .finite x ∧
        x.value = gathered.mantissa * 2 ^ (gathered.exponent - left)

theorem Gathered.Denotes.scalesExactly {gathered : Gathered} {number : Finite}
    (denotes : gathered.Denotes number) : gathered.ScalesExactly := by
  rcases denotes.placed with ⟨target, total, within, -⟩
  rcases ofInt_natCast denotes.small with ⟨whole, converted, positive, magnitude⟩
  have hand : InHand gathered.mantissa target (ofInt gathered.mantissa, gathered.exponent) :=
    ⟨whole, converted, positive, unitExponent, by decide, magnitude, total⟩
  refine ⟨exists_scaleReaches _ _, ?_⟩
  intro number left reaches
  refine ⟨reaches.scaled_eq, ?_⟩
  rcases reaches.inHand denotes.small within hand with ⟨x, found, sign, power, -, units, rest⟩
  refine ⟨x, found, ?_⟩
  have exponent : (power : ℤ) - unitExponent = gathered.exponent - left := by omega
  rw [Finite.value_of_units sign units, exponent]

/-! ## Reading a pattern back -/

/-- Every pattern that is not one of a NaN is read from its own text bit by bit, and a NaN is
read as a NaN.  The text of a finite pattern is a hexadecimal numeral that is read without any
rounding. -/
theorem ofText?_text_ofBits (bits : UInt64) :
    (¬ Pattern.IsNan bits → ∃ x, ofText? (ofBits bits).text = some x ∧ x.toBits = bits) ∧
    (Pattern.IsNan bits →
      ∃ x, ofText? (ofBits bits).text = some x ∧ Pattern.IsNan x.toBits) ∧
    (Pattern.IsFinite bits → ∃ digits gathered,
      Numeral.splitSign (Text.trim (ofBits bits).text.toList) =
        (decide (Nat.pow 2 63 ≤ bits.toNat), '0' :: 'x' :: digits) ∧
      gather? digits = some gathered ∧
      gathered.mantissa < Nat.pow 2 53 ∧
      (gathered.mantissa : ℚ) * 2 ^ gathered.exponent = Pattern.magnitude bits ∧
      gathered.ScalesExactly) := by
  refine ⟨?_, ?_, ?_⟩
  · intro ordinary
    have number : ofBits bits ≠ .nan := fun unknown =>
      ordinary ((ofBits_eq_nan_iff bits).mp unknown)
    exact ⟨ofBits bits, ofText?_text _, toBits_ofBits number⟩
  · intro unknown
    refine ⟨.nan, ?_, by decide +kernel⟩
    rw [(ofBits_eq_nan_iff bits).mpr unknown]
    exact ofText?_text .nan
  · intro finite
    rcases exists_ofBits_eq_finite finite with ⟨number, known, sign, mantissa, scale⟩
    rcases exists_spells_text number with ⟨digits, gathered, spells⟩
    have divided := spells.divided
    rw [← known, sign] at divided
    refine ⟨digits, gathered, divided, spells.gathers, spells.denotes.small, ?_,
      spells.denotes.scalesExactly⟩
    rw [magnitude_eq_units mantissa scale, spells.denotes.mul_pow_eq]

end Binary64
end FrameMachine
