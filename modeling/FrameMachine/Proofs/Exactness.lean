import FrameMachine.Binary64.Hexadecimal

namespace FrameMachine
namespace Binary64

/-!
# Exact results

A finite number is a whole number of units with at most 53 significant bits.  Rounding finds
such a number again whenever the exact result is one, so that a result in the format costs no
accuracy.  In particular a product with a power of two is exact as long as it does not leave
the range of the format, and a product that is taken in steps is exact at every step, because
the steps lie between the first number and the last.
-/

/-! ## Rounding what needs no rounding -/

theorem roundQuotient_mul (quotient : Nat) {denominator : Nat} (positive : 0 < denominator) :
    roundQuotient (quotient * denominator) denominator = quotient := by
  unfold roundQuotient
  rw [Nat.mul_div_cancel quotient positive, Nat.mul_mod_left]
  exact if_pos positive

namespace Finite

/-- The scale of a number can be told from its magnitude. -/
theorem log2_units (x : Finite) : x.units.log2 - 52 = x.scale := by
  rcases x.canonical with ⟨small, -, lowest | full⟩
  · rw [units, lowest, Nat.sub_eq_zero_iff_le]
    rcases Nat.eq_zero_or_pos x.mantissa with zero | positive
    · rw [zero]
      decide
    · apply Nat.le_of_lt_succ
      apply (Nat.log2_lt (Nat.ne_of_gt (Nat.mul_pos positive Nat.one_pos))).mpr
      rwa [Nat.mul_one]
  · have positive : 0 < x.mantissa := Nat.lt_of_lt_of_le (Nat.two_pow_pos 52) full
    have log : x.units.log2 = 52 + x.scale := by
      apply (Nat.log2_eq_iff (Nat.ne_of_gt (Nat.mul_pos positive (Nat.two_pow_pos _)))).mpr
      constructor
      · rw [Nat.pow_add]
        exact Nat.mul_le_mul_right _ full
      · rw [Nat.add_right_comm, Nat.pow_add]
        exact Nat.mul_lt_mul_of_pos_right small (Nat.two_pow_pos _)
    rw [log, Nat.add_sub_cancel_left]

/-- A quotient that is a number of the format is rounded to it. -/
theorem nearest_units (x : Finite) {denominator : Nat} (positive : 0 < denominator) :
    nearest x.negative (x.units * denominator) denominator = .finite x := by
  have scale : (x.units * denominator / denominator).log2 - 52 = x.scale := by
    rw [Nat.mul_div_cancel _ positive, x.log2_units]
  have factors : x.units * denominator = x.mantissa * (denominator * Nat.pow 2 x.scale) := by
    rw [units, Nat.mul_assoc, Nat.mul_comm denominator]
  have mantissa : roundQuotient (x.units * denominator) (denominator * Nat.pow 2 x.scale) =
      x.mantissa := by
    rw [factors]
    exact roundQuotient_mul x.mantissa (Nat.mul_pos positive (Nat.two_pow_pos _))
  have bounded : x.mantissa ≠ Nat.pow 2 53 := Nat.ne_of_lt x.canonical.1
  rw [nearest, scale, mantissa]
  exact (if_neg bounded).trans (dif_pos x.canonical)

/-- A number is determined by its sign and its magnitude. -/
theorem eq_of_units {x y : Finite} (sign : x.negative = y.negative) (same : x.units = y.units) :
    x = y := by
  have found := x.nearest_units Nat.one_pos
  rw [sign, same, y.nearest_units Nat.one_pos] at found
  exact (Binary64.finite.inj found).symm

/-- Every magnitude of at most 53 bits within the range of the scales is that of a number. -/
theorem exists_units (negative : Bool) {mantissa scale : Nat} (small : mantissa < Nat.pow 2 53)
    (bound : scale ≤ 2045) :
    ∃ x : Finite, x.negative = negative ∧ x.units = mantissa * Nat.pow 2 scale := by
  induction scale generalizing mantissa with
  | zero => exact ⟨⟨negative, mantissa, 0, small, bound, Or.inl rfl⟩, rfl, rfl⟩
  | succ scale inductionHypothesis =>
      rcases Nat.lt_or_ge mantissa (Nat.pow 2 52) with short | full
      · -- A mantissa with room is doubled until it is full or the scale is the lowest.
        have doubled : mantissa * 2 < Nat.pow 2 53 :=
          Nat.mul_lt_mul_of_pos_right short Nat.two_pos
        rcases inductionHypothesis doubled (Nat.le_of_succ_le bound) with ⟨x, sign, magnitude⟩
        refine ⟨x, sign, magnitude.trans ?_⟩
        rw [Nat.mul_assoc, Nat.mul_comm 2]
        rfl
      · exact ⟨⟨negative, mantissa, scale + 1, small, bound, Or.inr full⟩, rfl, rfl⟩

end Finite

/-! ## Powers of two -/

section PowerOfTwo

variable {mantissa power target : Nat} {exponent : Int}

/-- A product with a power of two that is a number of the format is found. -/
theorem timesPowerOfTwo_finite {x y : Finite} (sign : y.negative = x.negative)
    (before : x.units = mantissa * Nat.pow 2 power) (after : y.units = mantissa * Nat.pow 2 target)
    (total : (power : Int) + exponent = target) :
    timesPowerOfTwo (.finite x) exponent = .finite y := by
  rw [timesPowerOfTwo]
  split
  · have lowered : power = target + exponent.natAbs := by omega
    have quotient : x.units = y.units * Nat.pow 2 exponent.natAbs := by
      rw [before, after, lowered, Nat.mul_assoc]
      exact congrArg (mantissa * ·) (Nat.pow_add 2 target exponent.natAbs)
    rw [quotient, ← sign]
    exact y.nearest_units (Nat.two_pow_pos _)
  · have raised : target = power + exponent.natAbs := by omega
    have product : x.units * Nat.pow 2 exponent.natAbs = y.units * 1 := by
      rw [before, after, raised, Nat.mul_assoc, Nat.mul_one]
      exact congrArg (mantissa * ·) (Nat.pow_add 2 power exponent.natAbs).symm
    rw [product, ← sign]
    exact y.nearest_units Nat.one_pos

/-- The part of an exponent that one step of scaling takes. -/
def scaleStep (exponent : Int) : Int :=
  max (-1000) (min 1000 exponent)

theorem scaleInSteps_eq (number : Binary64) (exponent : Int) :
    number.scaleInSteps exponent =
      if exponent = 0 ∨ number.isZero = true ∨ number.isFinite = false then number
      else (number.timesPowerOfTwo (scaleStep exponent)).scaleInSteps
        (exponent - scaleStep exponent) := by
  rw [scaleInSteps]
  rfl

/-- A number on its way to `mantissa * 2 ^ target` units.  It has the same mantissa at another
place of the format, and the exponent is what it has still to go. -/
def OnTheWay (mantissa target : Nat) (x : Finite) (exponent : Int) : Prop :=
  ∃ power : Nat, power ≤ 2045 ∧ x.units = mantissa * Nat.pow 2 power ∧
    (power : Int) + exponent = target

/-- A step of scaling is exact and leads on, because it ends between the first number and the
last. -/
theorem OnTheWay.step {x : Finite} (way : OnTheWay mantissa target x exponent)
    (small : mantissa < Nat.pow 2 53) (reached : target ≤ 2045) :
    ∃ y : Finite, timesPowerOfTwo (.finite x) (scaleStep exponent) = .finite y ∧
      y.negative = x.negative ∧ OnTheWay mantissa target y (exponent - scaleStep exponent) := by
  rcases way with ⟨power, bound, before, total⟩
  have stepped : scaleStep exponent = max (-1000) (min 1000 exponent) := rfl
  have between : ∃ middle : Nat, (power : Int) + scaleStep exponent = middle ∧ middle ≤ 2045 :=
    ⟨((power : Int) + scaleStep exponent).toNat, by omega, by omega⟩
  rcases between with ⟨middle, partway, within⟩
  rcases Finite.exists_units x.negative small within with ⟨y, sign, magnitude⟩
  refine ⟨y, timesPowerOfTwo_finite sign before magnitude partway, sign, ?_⟩
  exact ⟨middle, within, magnitude, by omega⟩

/-- A number that has nowhere to go is there, and so is zero. -/
theorem OnTheWay.units_of_done {x : Finite} (way : OnTheWay mantissa target x exponent)
    (done : exponent = 0 ∨ x.mantissa = 0) : x.units = mantissa * Nat.pow 2 target := by
  rcases way with ⟨power, -, before, total⟩
  rcases done with finished | zero
  · have same : power = target := by omega
    rw [before, same]
  · have product : mantissa * Nat.pow 2 power = 0 := by
      rw [← before, Finite.units, zero, Nat.zero_mul]
    have nothing : mantissa = 0 :=
      (Nat.mul_eq_zero.mp product).resolve_right (Nat.ne_of_gt (Nat.two_pow_pos _))
    rw [before, nothing, Nat.zero_mul, Nat.zero_mul]

/-- Scaling in steps is exact if the first number and the last are in the range of the format.
The induction is on what is left of the exponent. -/
theorem scaleInSteps_finite {x : Finite} (small : mantissa < Nat.pow 2 53)
    (way : OnTheWay mantissa target x exponent) (reached : target ≤ 2045) :
    ∃ y : Finite, scaleInSteps (.finite x) exponent = .finite y ∧ y.negative = x.negative ∧
      y.units = mantissa * Nat.pow 2 target := by
  induction left : exponent.natAbs using Nat.strongRecOn generalizing x exponent with
  | ind size inductionHypothesis =>
      rw [scaleInSteps_eq]
      split
      · rename_i done
        refine ⟨x, rfl, rfl, way.units_of_done ?_⟩
        rcases done with finished | zero | infinite
        · exact Or.inl finished
        · exact Or.inr (of_decide_eq_true zero)
        · cases infinite
      · rename_i going
        have unfinished : exponent ≠ 0 := fun finished => going (Or.inl finished)
        have stepped : scaleStep exponent = max (-1000) (min 1000 exponent) := rfl
        rcases way.step small reached with ⟨z, scaled, sign, further⟩
        rw [scaled]
        have shorter : (exponent - scaleStep exponent).natAbs < size := by omega
        rcases inductionHypothesis _ shorter further rfl with ⟨y, last, same, units⟩
        exact ⟨y, last, same.trans sign, units⟩

end PowerOfTwo

/-- A natural number of at most 53 bits is a number of the format. -/
theorem ofInt_natCast {mantissa : Nat} (small : mantissa < Nat.pow 2 53) :
    ∃ x : Finite, ofInt mantissa = .finite x ∧ x.negative = false ∧
      x.units = mantissa * Nat.pow 2 unitExponent := by
  rcases Finite.exists_units false small (by decide : unitExponent ≤ 2045) with
    ⟨x, sign, magnitude⟩
  refine ⟨x, ?_, sign, magnitude⟩
  have positive : decide ((mantissa : Int) < 0) = x.negative := by
    rw [sign]
    exact decide_eq_false (by omega)
  have whole : mantissa * one = x.units * 1 := by
    delta one
    rw [magnitude, Nat.mul_one]
  rw [ofInt, positive, Int.natAbs_natCast, whole]
  exact x.nearest_units Nat.one_pos

/-- A gathered numeral whose mantissa fits and whose value is in the range of the format denotes
exactly that value. -/
theorem Gathered.number_eq_finite (gathered : Gathered) {target : Nat}
    (small : gathered.mantissa < Nat.pow 2 53)
    (total : (unitExponent : Int) + gathered.exponent = target) (reached : target ≤ 2045) :
    ∃ x : Finite, gathered.number = .finite x ∧ x.negative = false ∧
      x.units = gathered.mantissa * Nat.pow 2 target := by
  rcases ofInt_natCast small with ⟨whole, converted, positive, magnitude⟩
  have way : OnTheWay gathered.mantissa target whole gathered.exponent :=
    ⟨unitExponent, by decide, magnitude, total⟩
  rcases scaleInSteps_finite small way reached with ⟨x, scaled, sign, units⟩
  refine ⟨x, ?_, sign.trans positive, units⟩
  rw [Gathered.number, converted, scaled]

end Binary64
end FrameMachine
