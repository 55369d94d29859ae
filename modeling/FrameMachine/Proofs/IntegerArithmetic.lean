import FrameMachine.Operation.Apply
import FrameMachine.Proofs.Digits
import Mathlib.Data.Rat.Floor

namespace FrameMachine

/-!
# Integer arithmetic

Sum, difference, product and quotient of two integers are the exact ones, or the operation is
refused.  For the quotient this needs an argument, because it is rounded toward zero first and
corrected afterwards.  The correction is made exactly where the remainder has not the sign of
the divisor, and it is never made near the ends of the range: a remainder is left only by a
divisor of at least two, which at least halves the dividend.  So the one quotient out of range
is the one that the division itself refuses, and neither the remainder nor the correction is
ever asked for what has no result in 64 bits.
-/

open Numeral

/-! ## Rounding down -/

section FloorDivision

variable {dividend divisor quotient remainder : ℤ}

/-- Whether the integer can be left over when a quotient is rounded down. -/
def IsFloorRemainder (divisor remainder : ℤ) : Prop :=
  (remainder = 0 ∨ remainder.sign = divisor.sign) ∧ |remainder| < |divisor|

theorem isFloorRemainder_iff_of_pos (positive : 0 < divisor) :
    IsFloorRemainder divisor remainder ↔ 0 ≤ remainder ∧ remainder < divisor := by
  rw [IsFloorRemainder, Int.sign_eq_one_of_pos positive, Int.sign_eq_one_iff_pos,
    abs_of_pos positive, abs_lt]
  omega

theorem isFloorRemainder_iff_of_neg (negative : divisor < 0) :
    IsFloorRemainder divisor remainder ↔ divisor < remainder ∧ remainder ≤ 0 := by
  rw [IsFloorRemainder, Int.sign_eq_neg_one_of_neg negative, Int.sign_eq_neg_one_iff_neg,
    abs_of_neg negative, abs_lt]
  omega

/-- The floor of a quotient is known by the remainder. -/
theorem floor_div_eq (nonzero : divisor ≠ 0) (parts : dividend = divisor * quotient + remainder)
    (fitting : IsFloorRemainder divisor remainder) :
    ⌊(dividend : ℚ) / divisor⌋ = quotient := by
  have whole : (dividend : ℚ) = divisor * quotient + remainder := by exact_mod_cast parts
  rw [Int.floor_eq_iff]
  rcases lt_or_gt_of_ne nonzero with negative | positive
  · rcases (isFloorRemainder_iff_of_neg negative).mp fitting with ⟨low, high⟩
    have lowCast : (divisor : ℚ) < remainder := by exact_mod_cast low
    have highCast : (remainder : ℚ) ≤ 0 := by exact_mod_cast high
    have negativeCast : (divisor : ℚ) < 0 := by exact_mod_cast negative
    rw [le_div_iff_of_neg negativeCast, div_lt_iff_of_neg negativeCast]
    constructor <;> linarith
  · rcases (isFloorRemainder_iff_of_pos positive).mp fitting with ⟨low, high⟩
    have lowCast : (0 : ℚ) ≤ remainder := by exact_mod_cast low
    have highCast : (remainder : ℚ) < divisor := by exact_mod_cast high
    have positiveCast : (0 : ℚ) < divisor := by exact_mod_cast positive
    rw [le_div_iff₀ positiveCast, div_lt_iff₀ positiveCast]
    constructor <;> linarith

/-- Whether rounding toward zero gives more than rounding down. -/
def NeedsCorrection (dividend divisor : ℤ) : Prop :=
  dividend.tmod divisor ≠ 0 ∧ decide (dividend < 0) ≠ decide (divisor < 0)

instance (dividend divisor : ℤ) : Decidable (NeedsCorrection dividend divisor) :=
  inferInstanceAs (Decidable (_ ∧ _))

/-- The quotient that is rounded toward zero and then corrected. -/
def correctedQuotient (dividend divisor : ℤ) : ℤ :=
  if NeedsCorrection dividend divisor then dividend.tdiv divisor - 1 else dividend.tdiv divisor

theorem needsCorrection_iff :
    NeedsCorrection dividend divisor ↔
      ¬ dividend.tmod divisor = 0 ∧ ¬ (dividend < 0 ↔ divisor < 0) := by
  rw [NeedsCorrection, ne_eq, ne_eq, decide_eq_decide]

/-- What rounding toward zero leaves over has the sign of the dividend. -/
theorem tmod_bounds (dividend : ℤ) (nonzero : divisor ≠ 0) :
    (dividend.tmod divisor).natAbs < divisor.natAbs ∧
      (0 ≤ dividend → 0 ≤ dividend.tmod divisor) ∧
      (dividend < 0 → dividend.tmod divisor ≤ 0) := by
  refine ⟨?_, Int.tmod_nonneg divisor, ?_⟩
  · rw [Int.natAbs_tmod]
    exact Nat.mod_lt _ (Int.natAbs_pos.mpr nonzero)
  · intro negative
    have opposite := Int.tmod_nonneg divisor (neg_nonneg.mpr negative.le)
    rw [Int.neg_tmod] at opposite
    exact neg_nonneg.mp opposite

/-- What the corrected quotient leaves over has the sign of the divisor. -/
theorem exists_floor_remainder (dividend : ℤ) (nonzero : divisor ≠ 0) :
    ∃ remainder : ℤ, dividend = divisor * correctedQuotient dividend divisor + remainder ∧
      IsFloorRemainder divisor remainder := by
  have parts := Int.mul_tdiv_add_tmod dividend divisor
  have bounds := tmod_bounds dividend nonzero
  rw [correctedQuotient]
  split
  · rename_i needed
    rw [needsCorrection_iff] at needed
    refine ⟨dividend.tmod divisor + divisor, by rw [mul_sub]; omega, ?_⟩
    rcases lt_or_gt_of_ne nonzero with negative | positive
    · rw [isFloorRemainder_iff_of_neg negative]
      omega
    · rw [isFloorRemainder_iff_of_pos positive]
      omega
  · rename_i unneeded
    rw [needsCorrection_iff] at unneeded
    refine ⟨dividend.tmod divisor, parts.symm, ?_⟩
    rcases lt_or_gt_of_ne nonzero with negative | positive
    · rw [isFloorRemainder_iff_of_neg negative]
      omega
    · rw [isFloorRemainder_iff_of_pos positive]
      omega

/-- The corrected quotient is rounded down. -/
theorem floor_div_eq_correctedQuotient (dividend : ℤ) (nonzero : divisor ≠ 0) :
    ⌊(dividend : ℚ) / divisor⌋ = correctedQuotient dividend divisor := by
  rcases exists_floor_remainder dividend nonzero with ⟨remainder, parts, fitting⟩
  exact floor_div_eq nonzero parts fitting

/-- A correction is made only after the dividend has been halved at least. -/
theorem natAbs_tdiv_of_needsCorrection (nonzero : divisor ≠ 0)
    (needed : NeedsCorrection dividend divisor) :
    2 * (dividend.tdiv divisor).natAbs ≤ dividend.natAbs := by
  have bounds := tmod_bounds dividend nonzero
  have two : 2 ≤ divisor.natAbs := by
    have left := needed.1
    omega
  calc
    2 * (dividend.tdiv divisor).natAbs ≤ divisor.natAbs * (dividend.natAbs / divisor.natAbs) := by
      rw [Int.natAbs_tdiv]
      exact Nat.mul_le_mul_right _ two
    _ ≤ dividend.natAbs := Nat.mul_div_le _ _

/-- The corrected quotient has 64 bits if and only if the first quotient has. -/
theorem fitsWord_correctedQuotient_iff (nonzero : divisor ≠ 0) (fits : FitsWord dividend) :
    FitsWord (correctedQuotient dividend divisor) ↔ FitsWord (dividend.tdiv divisor) := by
  rw [correctedQuotient]
  split
  · rename_i needed
    have halved := natAbs_tdiv_of_needsCorrection nonzero needed
    simp only [FitsWord] at fits ⊢
    omega
  · exact Iff.rfl

end FloorDivision

/-! ## Outcomes -/

namespace BinaryOperation

/-- Whether an outcome is the integer `result` where that is defined and has 64 bits, and a
refusal of the values everywhere else. -/
structure ExactOrRefused (outcome : Except Error Value) (defined : Prop) (result : ℤ) : Prop where
  computes : (∃ n : Int64, outcome = .ok (.int n)) ↔ defined ∧ FitsWord result
  exact : ∀ n : Int64, outcome = .ok (.int n) → n.toInt = result
  refuses : ¬ (defined ∧ FitsWord result) →
    ∃ error, outcome = .error error ∧ error.kind = .operandValueBad

theorem exactOrRefused_of_computed {outcome : Except Error Value} {defined : Prop} {n : Int64}
    {result : ℤ} (computed : outcome = .ok (.int n)) (holds : defined) (same : n.toInt = result) :
    ExactOrRefused outcome defined result := by
  have fits : FitsWord result := same ▸ fitsWord_toInt n
  refine ⟨iff_of_true ⟨n, computed⟩ ⟨holds, fits⟩, ?_, fun outside => absurd ⟨holds, fits⟩ outside⟩
  intro m found
  rw [computed] at found
  cases found
  exact same

theorem exactOrRefused_of_refused {outcome : Except Error Value} {defined : Prop} {error : Error}
    {result : ℤ} (refused : outcome = .error error) (kind : error.kind = .operandValueBad)
    (outside : ¬ (defined ∧ FitsWord result)) : ExactOrRefused outcome defined result := by
  refine ⟨iff_of_false ?_ outside, ?_, fun _ => ⟨error, refused, kind⟩⟩
  · rintro ⟨n, found⟩
    rw [refused] at found
    cases found
  · intro n found
    rw [refused] at found
    cases found

/-- An exact result is given or refused. -/
theorem exactOrRefused_exact (operation : BinaryOperation) (left right : Int64) (result : ℤ) :
    ExactOrRefused (operation.exact left right result) True result := by
  by_cases fits : FitsWord result
  · apply exactOrRefused_of_computed _ trivial (toInt_ofInt_of_fits fits)
    rw [exact, int64?_of_fits fits]
  · apply exactOrRefused_of_refused _ _ (fun both => fits both.2)
    · exact .value (.overflow operation left right)
    · rw [exact, int64?_eq_none_iff.mpr fits]
    · rfl

/-! ## Division of words -/

section Words

variable {left right quotient : Int64}

theorem toInt_ne_zero (nonzero : right ≠ 0) : right.toInt ≠ 0 := by
  intro zero
  exact nonzero (Int64.toInt_inj.mp (zero.trans Int64.toInt_zero.symm))

/-- The test that words are put to is the one of the integers that they hold. -/
theorem correction_iff (left right : Int64) :
    (left % right ≠ 0 ∧ decide (left < 0) ≠ decide (right < 0)) ↔
      NeedsCorrection left.toInt right.toInt := by
  rw [needsCorrection_iff, ne_eq, ne_eq, decide_eq_decide, Int64.lt_iff_toInt_lt,
    Int64.lt_iff_toInt_lt, ← Int64.toInt_inj, Int64.toInt_mod, Int64.toInt_zero]

theorem truncatedQuotient?_eq_some_iff (nonzero : right ≠ 0) :
    truncatedQuotient? left right = some quotient ↔
      left.toInt.tdiv right.toInt = quotient.toInt := by
  rw [truncatedQuotient?, if_neg nonzero, int64?_eq_some_iff]

theorem truncatedQuotient?_eq_none_iff (nonzero : right ≠ 0) :
    truncatedQuotient? left right = none ↔ ¬ FitsWord (left.toInt.tdiv right.toInt) := by
  rw [truncatedQuotient?, if_neg nonzero, int64?_eq_none_iff]

/-- A difference that has 64 bits is the one of the words. -/
theorem toInt_sub_of_fits (fits : FitsWord (left.toInt - right.toInt)) :
    (left - right).toInt = left.toInt - right.toInt := by
  rw [Int64.toInt_sub]
  rcases fits with ⟨low, high⟩
  exact Int.bmod_eq_of_le_mul_two (by norm_num at low ⊢; omega) (by norm_num at high ⊢; omega)

/-- The corrected word holds the corrected quotient. -/
theorem toInt_corrected (nonzero : right ≠ 0)
    (known : truncatedQuotient? left right = some quotient)
    (needed : NeedsCorrection left.toInt right.toInt) :
    FitsWord (quotient.toInt - (1 : Int64).toInt) ∧
      (quotient - 1).toInt = correctedQuotient left.toInt right.toInt := by
  have first := (truncatedQuotient?_eq_some_iff nonzero).mp known
  have corrected : correctedQuotient left.toInt right.toInt =
      quotient.toInt - (1 : Int64).toInt := by
    rw [correctedQuotient, if_pos needed, first]
    rfl
  have fits : FitsWord (quotient.toInt - (1 : Int64).toInt) := by
    rw [← corrected, fitsWord_correctedQuotient_iff (toInt_ne_zero nonzero) (fitsWord_toInt left),
      first]
    exact fitsWord_toInt quotient
  exact ⟨fits, (toInt_sub_of_fits fits).trans corrected.symm⟩

/-- The quotient of two words is the exact one, rounded down, or it is refused. -/
theorem exactOrRefused_floorQuotient (left right : Int64) :
    ExactOrRefused (floorQuotient left right) (right ≠ 0)
      ⌊(left.toInt : ℚ) / right.toInt⌋ := by
  by_cases zero : right = 0
  · have refused : floorQuotient left right = .error (.value .integerDivisionByZero) := by
      rw [floorQuotient, if_pos zero]
    exact exactOrRefused_of_refused refused rfl fun both => both.1 zero
  · rw [floor_div_eq_correctedQuotient left.toInt (toInt_ne_zero zero)]
    cases known : truncatedQuotient? left right with
    | none =>
        have refused : floorQuotient left right = .error (.value (.overflow .idiv left right)) := by
          simp only [floorQuotient, if_neg zero, known]
        apply exactOrRefused_of_refused refused rfl
        rintro ⟨-, fits⟩
        rw [fitsWord_correctedQuotient_iff (toInt_ne_zero zero) (fitsWord_toInt left)] at fits
        exact (truncatedQuotient?_eq_none_iff zero).mp known fits
    | some quotient =>
        by_cases needed : NeedsCorrection left.toInt right.toInt
        · have computed : floorQuotient left right = .ok (.int (quotient - 1)) := by
            simp only [floorQuotient, if_neg zero, known, if_pos ((correction_iff ..).mpr needed)]
          exact exactOrRefused_of_computed computed zero (toInt_corrected zero known needed).2
        · have computed : floorQuotient left right = .ok (.int quotient) := by
            simp only [floorQuotient, if_neg zero, known, if_neg (mt (correction_iff ..).mp needed)]
          apply exactOrRefused_of_computed computed zero
          rw [correctedQuotient, if_neg needed]
          exact ((truncatedQuotient?_eq_some_iff zero).mp known).symm

end Words

/-! ## Operations that must have a result -/

/-- The remainder of a division, if the division has a quotient of 64 bits. -/
def strictRemainder? (left right : Int64) : Option Int64 :=
  (truncatedQuotient? left right).map fun _ => left % right

/-- The difference of two integers, if it has 64 bits. -/
def strictDifference? (left right : Int64) : Option Int64 :=
  int64? (left.toInt - right.toInt)

/-- Rounding down on a machine that stops where an operation has no result.  Only the first
division may fail, and its failure is the outcome. -/
def strictFloorQuotient (left right : Int64) : Option (Except Error Value) :=
  if right = 0 then some (.error (.value .integerDivisionByZero))
  else
    match truncatedQuotient? left right with
    | none => some (.error (.value (.overflow .idiv left right)))
    | some quotient => do
        let remainder ← strictRemainder? left right
        if remainder ≠ 0 ∧ decide (left < 0) ≠ decide (right < 0) then
          let lowered ← strictDifference? quotient 1
          return .ok (.int lowered)
        else return .ok (.int quotient)

/-- Rounding down never stops. -/
theorem strictFloorQuotient_eq (left right : Int64) :
    strictFloorQuotient left right = some (floorQuotient left right) := by
  by_cases zero : right = 0
  · rw [strictFloorQuotient, floorQuotient, if_pos zero, if_pos zero]
  · rw [strictFloorQuotient, floorQuotient, if_neg zero, if_neg zero]
    cases known : truncatedQuotient? left right with
    | none => rfl
    | some quotient =>
        have remains : strictRemainder? left right = some (left % right) := by
          rw [strictRemainder?, known, Option.map_some]
        simp only [remains, Option.bind_eq_bind, Option.bind_some]
        split
        · rename_i needed
          have lowered := toInt_corrected zero known ((correction_iff ..).mp needed)
          have differs : strictDifference? quotient 1 = some (quotient - 1) := by
            rw [strictDifference?, int64?_eq_some_iff, toInt_sub_of_fits lowered.1]
          rw [differs]
          rfl
        · rfl

/-! ## All four operations -/

/-- Integer arithmetic is exact or refused.  Sum, difference and product are those of the
integers, the quotient is the floor of the rational one, and whatever has no result in 64 bits
is refused as a bad value.  No operation on the way to the quotient is without a result. -/
theorem integers_exact_or_refused (a b : Int64) :
    ExactOrRefused (apply .add (.int a) (.int b)) True (a.toInt + b.toInt) ∧
    ExactOrRefused (apply .sub (.int a) (.int b)) True (a.toInt - b.toInt) ∧
    ExactOrRefused (apply .mul (.int a) (.int b)) True (a.toInt * b.toInt) ∧
    ExactOrRefused (apply .idiv (.int a) (.int b)) (b ≠ 0) ⌊(a.toInt : ℚ) / b.toInt⌋ ∧
    (∀ q : Int64, apply .idiv (.int a) (.int b) = .ok (.int q) →
      ∃ r : ℤ, a.toInt = b.toInt * q.toInt + r ∧ IsFloorRemainder b.toInt r) ∧
    strictFloorQuotient a b = some (floorQuotient a b) := by
  refine ⟨exactOrRefused_exact .add a b _, exactOrRefused_exact .sub a b _,
    exactOrRefused_exact .mul a b _, exactOrRefused_floorQuotient a b, ?_,
    strictFloorQuotient_eq a b⟩
  intro q computed
  have divided := exactOrRefused_floorQuotient a b
  have nonzero := toInt_ne_zero (divided.computes.mp ⟨q, computed⟩).1
  rw [divided.exact q computed, floor_div_eq_correctedQuotient a.toInt nonzero]
  exact exists_floor_remainder a.toInt nonzero

/-- A quotient that is corrected, with its remainder, and the one quotient out of range. -/
theorem integers_exact_or_refused_at_ends :
    apply .idiv (.int (-7)) (.int 2) = .ok (.int (-4)) ∧
    (∃ r : ℤ, -7 = 2 * (-4) + r ∧ IsFloorRemainder 2 r) ∧
    ∃ error, apply .idiv (.int Int64.minValue) (.int (-1)) = .error error ∧
      error.kind = .operandValueBad := by
  rcases integers_exact_or_refused (-7) 2 with ⟨-, -, -, -, remains, -⟩
  rcases integers_exact_or_refused Int64.minValue (-1) with ⟨-, -, -, divided, -, -⟩
  have computed : apply .idiv (.int (-7)) (.int 2) = .ok (.int (-4)) := by decide
  refine ⟨computed, remains (-4) computed, divided.refuses ?_⟩
  rintro ⟨-, -, high⟩
  have floor : ⌊((Int64.minValue.toInt : ℤ) : ℚ) / ((-1 : Int64).toInt : ℤ)⌋ = 2 ^ 63 := by
    have least : Int64.minValue.toInt = -2 ^ 63 := Int64.toInt_minValue
    have minusOne : (-1 : Int64).toInt = -1 := by decide
    rw [least, minusOne]
    norm_num
  rw [floor] at high
  exact absurd high (by norm_num)

end BinaryOperation
end FrameMachine
