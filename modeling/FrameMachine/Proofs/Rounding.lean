import FrameMachine.Proofs.BitPattern
import Mathlib.Data.Int.Log
import Mathlib.Data.Rat.Floor

namespace FrameMachine
namespace Binary64

/-!
# Rounding to 53 significant bits

The conversion of an integer to the format rounds to the nearest number of 53 significant bits,
a tie going to the even one.  Here the same is said of rational numbers, where no exponent is
out of range, and a product with a power of two is rounded like the number itself.  All points
at which rounding jumps are even multiples of what the last of at least 55 bits stands for.
So rounding does not tell an odd integer of that length from the numbers that are less than one
away from it, and a single bit can stand for everything that was left off behind it.
-/

/-! ## Ties to even -/

/-- The nearest integer, and the even one of two that are equally near. -/
def roundEven (x : ℚ) : ℤ :=
  if Int.fract x < 1 / 2 then ⌊x⌋
  else if 1 / 2 < Int.fract x then ⌊x⌋ + 1
  else if ⌊x⌋ % 2 = 0 then ⌊x⌋
  else ⌊x⌋ + 1

/-- Between two multiples of one half, rounding gives the one integer among the two. -/
theorem roundEven_of_between {x : ℚ} {halves : ℤ} (low : (halves : ℚ) < 2 * x)
    (high : 2 * x < halves + 1) : roundEven x = (halves + 1) / 2 := by
  rcases Int.even_or_odd' halves with ⟨whole, rfl | rfl⟩
  · push_cast at low high
    have floor : ⌊x⌋ = whole := Int.floor_eq_iff.mpr ⟨by linarith, by linarith⟩
    have below : Int.fract x < 1 / 2 := by
      rw [← Int.self_sub_floor, floor]
      linarith
    rw [roundEven, if_pos below, floor]
    omega
  · push_cast at low high
    have floor : ⌊x⌋ = whole := Int.floor_eq_iff.mpr ⟨by linarith, by linarith⟩
    have above : 1 / 2 < Int.fract x := by
      rw [← Int.self_sub_floor, floor]
      linarith
    rw [roundEven, if_neg above.not_gt, if_pos above, floor]
    omega

/-- The rounded quotient of two natural numbers is that of the rational one. -/
theorem roundQuotient_eq (numerator : Nat) {denominator : Nat} (positive : 0 < denominator) :
    (roundQuotient numerator denominator : ℤ) = roundEven ((numerator : ℚ) / denominator) := by
  have positiveCast : (0 : ℚ) < denominator := Nat.cast_pos.mpr positive
  have floor : ⌊(numerator : ℚ) / denominator⌋ = (numerator / denominator : Nat) :=
    Rat.floor_natCast_div_natCast numerator denominator
  have fract : Int.fract ((numerator : ℚ) / denominator) =
      ((numerator % denominator : Nat) : ℚ) / denominator := by
    have parts : (numerator : ℚ) = (numerator % denominator : Nat) +
        denominator * (numerator / denominator : Nat) := by
      exact_mod_cast (Nat.mod_add_div numerator denominator).symm
    rw [← Int.self_sub_floor, floor, Int.cast_natCast, sub_eq_iff_eq_add,
      div_add' _ _ _ positiveCast.ne', mul_comm, ← parts]
  have below : Int.fract ((numerator : ℚ) / denominator) < 1 / 2 ↔
      2 * (numerator % denominator) < denominator := by
    rw [fract, div_lt_div_iff₀ positiveCast two_pos, one_mul, mul_comm]
    exact_mod_cast Iff.rfl
  have above : 1 / 2 < Int.fract ((numerator : ℚ) / denominator) ↔
      denominator < 2 * (numerator % denominator) := by
    rw [fract, div_lt_div_iff₀ two_pos positiveCast, one_mul, mul_comm]
    exact_mod_cast Iff.rfl
  have parity : (numerator / denominator : Nat) % 2 = 0 ↔
      ((numerator / denominator : Nat) : ℤ) % 2 = 0 := by
    omega
  simp only [roundQuotient, roundEven, below, above, floor, ← parity]
  split_ifs <;> push_cast <;> rfl

/-! ## Significant bits -/

/-- The number rounded to 53 significant bits, a tie going to the even one. -/
def roundTo53 (x : ℚ) : ℚ :=
  roundEven (x / 2 ^ (Int.log 2 x - 52)) * 2 ^ (Int.log 2 x - 52)

theorem log_eq {x : ℚ} {exponent : ℤ} (low : 2 ^ exponent ≤ x) (high : x < 2 ^ (exponent + 1)) :
    Int.log 2 x = exponent := by
  have positive : 0 < x := lt_of_lt_of_le (zpow_pos two_pos exponent) low
  apply le_antisymm
  · apply Int.lt_add_one_iff.mp
    apply (Int.lt_zpow_iff_log_lt one_lt_two positive).mp
    exact_mod_cast high
  · apply (Int.zpow_le_iff_le_log one_lt_two positive).mp
    exact_mod_cast low

theorem log_mul_zpow {x : ℚ} (positive : 0 < x) (exponent : ℤ) :
    Int.log 2 (x * 2 ^ exponent) = Int.log 2 x + exponent := by
  have low : 2 ^ Int.log 2 x ≤ x := by exact_mod_cast Int.zpow_log_le_self one_lt_two positive
  have high : x < 2 ^ (Int.log 2 x + 1) := by exact_mod_cast Int.lt_zpow_succ_log_self one_lt_two x
  have power : (0 : ℚ) < 2 ^ exponent := zpow_pos two_pos exponent
  apply log_eq
  · rw [zpow_add₀ two_ne_zero]
    exact mul_le_mul_of_nonneg_right low power.le
  · rw [add_right_comm, zpow_add₀ two_ne_zero]
    exact mul_lt_mul_of_pos_right high power

theorem roundTo53_zero : roundTo53 0 = 0 := by
  have floor : roundEven 0 = 0 := by
    rw [roundEven, Int.fract_zero, if_pos one_half_pos, Int.floor_zero]
  rw [roundTo53, zero_div, floor, Int.cast_zero, zero_mul]

/-- A product with a power of two is rounded like the number itself. -/
theorem roundTo53_mul_zpow {x : ℚ} (nonnegative : 0 ≤ x) (exponent : ℤ) :
    roundTo53 (x * 2 ^ exponent) = roundTo53 x * 2 ^ exponent := by
  rcases nonnegative.eq_or_lt with zero | positive
  · rw [← zero, zero_mul, roundTo53_zero, zero_mul]
  · have power : (2 : ℚ) ^ exponent ≠ 0 := zpow_ne_zero exponent two_ne_zero
    rw [roundTo53, roundTo53, log_mul_zpow positive, add_sub_right_comm, zpow_add₀ two_ne_zero,
      mul_div_mul_right _ _ power, mul_assoc]

/-! ## Sticky bits -/

/-- Numbers of at least 55 bits in front of the point lose at least two of them. -/
theorem roundTo53_of_length {x : ℚ} {e : Nat} (low : 2 ^ (e + 54) ≤ x) (high : x < 2 ^ (e + 55)) :
    roundTo53 x = roundEven (x / 2 ^ (e + 2)) * 2 ^ (e + 2) := by
  have length : Int.log 2 x = ((e + 54 : Nat) : ℤ) := by
    apply log_eq
    · rw [zpow_natCast]
      exact low
    · rw [← Nat.cast_succ, zpow_natCast]
      exact high
  have place : Int.log 2 x - 52 = ((e + 2 : Nat) : ℤ) := by
    rw [length]
    omega
  rw [roundTo53, place, zpow_natCast]

section Sticky

variable {mantissa e : Nat}

/-- An odd number of at least 55 bits is not next to a power of two with as many. -/
theorem exists_length (long : 2 ^ 59 ≤ mantissa) (odd : mantissa % 2 = 1) :
    ∃ e, 2 ^ (e + 54) + 1 ≤ mantissa ∧ mantissa + 1 ≤ 2 ^ (e + 55) := by
  have length : 59 ≤ Nat.log 2 mantissa := Nat.le_log_of_pow_le one_lt_two long
  have nonzero : mantissa ≠ 0 := by
    intro zero
    rw [zero] at odd
    cases odd
  have exponent : ∃ e, Nat.log 2 mantissa = e + 54 := ⟨Nat.log 2 mantissa - 54, by omega⟩
  rcases exponent with ⟨e, logarithm⟩
  have first := Nat.pow_log_le_self 2 nonzero
  have last := Nat.lt_pow_succ_log_self one_lt_two mantissa
  rw [logarithm] at first last
  refine ⟨e, ?_, last⟩
  rw [pow_succ] at first ⊢
  omega

/-- An odd number is not next to a multiple of an even one. -/
theorem odd_between_multiples (odd : mantissa % 2 = 1) {half : Nat} (positive : 0 < half) :
    mantissa / (2 * half) * (2 * half) + 1 ≤ mantissa ∧
      mantissa + 1 ≤ (mantissa / (2 * half) + 1) * (2 * half) := by
  have parts := Nat.div_add_mod' mantissa (2 * half)
  have small : mantissa % (2 * half) < 2 * half := Nat.mod_lt _ (by omega)
  have parity : mantissa % (2 * half) % 2 = 1 := by
    rw [Nat.mod_mul_right_mod, odd]
  rw [Nat.add_mul, Nat.one_mul]
  omega

/-- The numbers next to an odd integer lie between the same two multiples of one half of a
unit that is a multiple of four. -/
theorem roundEven_of_near (odd : mantissa % 2 = 1) {x : ℚ} (low : (mantissa : ℚ) - 1 < x)
    (high : x < mantissa + 1) :
    roundEven (x / 2 ^ (e + 2)) = (((mantissa / (2 * 2 ^ e) : Nat) : ℤ) + 1) / 2 := by
  rcases odd_between_multiples odd (Nat.two_pow_pos e) with ⟨above, below⟩
  have aboveCast : ((mantissa / (2 * 2 ^ e) : Nat) : ℚ) * (2 * 2 ^ e) + 1 ≤ mantissa := by
    exact_mod_cast above
  have belowCast : (mantissa : ℚ) + 1 ≤ ((mantissa / (2 * 2 ^ e) : Nat) + 1) * (2 * 2 ^ e) := by
    exact_mod_cast below
  have unit : (0 : ℚ) < 2 * 2 ^ e := by positivity
  have doubled : 2 * (x / 2 ^ (e + 2)) = x / (2 * 2 ^ e) := by
    rw [pow_succ, pow_succ]
    field_simp
  apply roundEven_of_between
  · rw [doubled, lt_div_iff₀ unit, Int.cast_natCast]
    linarith
  · rw [doubled, div_lt_iff₀ unit, Int.cast_natCast]
    linarith

/-- Rounding does not tell an odd integer of sixty bits from the numbers next to it. -/
theorem roundTo53_eq_of_near (long : 2 ^ 59 ≤ mantissa) (odd : mantissa % 2 = 1) {x : ℚ}
    (near : |(mantissa : ℚ) - x| < 1) : roundTo53 mantissa = roundTo53 x := by
  rcases exists_length long odd with ⟨e, first, last⟩
  have firstCast : (2 : ℚ) ^ (e + 54) + 1 ≤ mantissa := by exact_mod_cast first
  have lastCast : (mantissa : ℚ) + 1 ≤ 2 ^ (e + 55) := by exact_mod_cast last
  have rounded (y : ℚ) (above : (mantissa : ℚ) - 1 < y) (below : y < mantissa + 1) :
      roundTo53 y = ((((mantissa / (2 * 2 ^ e) : Nat) : ℤ) + 1) / 2 : ℤ) * 2 ^ (e + 2) := by
    have longer : (2 : ℚ) ^ (e + 54) ≤ y := by linarith
    have shorter : y < (2 : ℚ) ^ (e + 55) := by linarith
    rw [roundTo53_of_length longer shorter, roundEven_of_near odd above below]
  rcases abs_lt.mp near with ⟨low, high⟩
  rw [rounded mantissa (by linarith) (by linarith), rounded x (by linarith) (by linarith)]

/-- The same holds at every place. -/
theorem roundTo53_mul_eq_of_near (long : 2 ^ 59 ≤ mantissa) (odd : mantissa % 2 = 1) {x : ℚ}
    {exponent : ℤ} (near : |mantissa * 2 ^ exponent - x| < 2 ^ exponent) :
    roundTo53 (mantissa * 2 ^ exponent) = roundTo53 x := by
  have power : (0 : ℚ) < 2 ^ exponent := zpow_pos two_pos exponent
  have same : x / 2 ^ exponent * 2 ^ exponent = x := div_mul_cancel₀ x power.ne'
  have closer : |(mantissa : ℚ) - x / 2 ^ exponent| < 1 := by
    rw [← same, ← sub_mul, abs_mul, abs_of_pos power] at near
    exact (mul_lt_iff_lt_one_left power).mp near
  have positive : 0 ≤ x / 2 ^ exponent := by
    have longCast : (2 : ℚ) ^ 59 ≤ mantissa := by exact_mod_cast long
    have low := (abs_lt.mp closer).2
    linarith
  calc
    roundTo53 (mantissa * 2 ^ exponent) = roundTo53 mantissa * 2 ^ exponent :=
      roundTo53_mul_zpow mantissa.cast_nonneg exponent
    _ = roundTo53 (x / 2 ^ exponent) * 2 ^ exponent := by
      rw [roundTo53_eq_of_near long odd closer]
    _ = roundTo53 x := by
      rw [← roundTo53_mul_zpow positive, same]

end Sticky

/-! ## Conversion of integers -/

/-- The rounded quotient lies between the whole numbers around the exact one. -/
theorem roundQuotient_bounds {numerator denominator low high : Nat} (positive : 0 < denominator)
    (above : low * denominator ≤ numerator) (below : numerator < high * denominator) :
    low ≤ roundQuotient numerator denominator ∧ roundQuotient numerator denominator ≤ high := by
  have first : low ≤ numerator / denominator := (Nat.le_div_iff_mul_le positive).mpr above
  have last : numerator / denominator < high := (Nat.div_lt_iff_lt_mul positive).mpr below
  unfold roundQuotient
  dsimp only
  split_ifs <;> omega

/-- A mantissa that has been rounded is placed where it stands for the same number of units. -/
theorem exists_place_units (negative : Bool) {mantissa scale : Nat} (full : Nat.pow 2 52 ≤ mantissa)
    (bound : mantissa ≤ Nat.pow 2 53) (within : scale ≤ 2044) :
    ∃ x : Finite, (if mantissa = Nat.pow 2 53 then place negative (Nat.pow 2 52) (scale + 1)
        else place negative mantissa scale) = .finite x ∧ x.negative = negative ∧
      x.units = mantissa * Nat.pow 2 scale := by
  by_cases carried : mantissa = Nat.pow 2 53
  · have canonical : Canonical (Nat.pow 2 52) (scale + 1) :=
      ⟨by decide, by omega, Or.inr (Nat.le_refl _)⟩
    rw [if_pos carried, place, dif_pos canonical]
    refine ⟨_, rfl, rfl, ?_⟩
    have next : Nat.pow 2 (scale + 1) = 2 * Nat.pow 2 scale := Nat.pow_succ'
    change Nat.pow 2 52 * Nat.pow 2 (scale + 1) = _
    rw [carried, next, ← Nat.mul_assoc]
  · have canonical : Canonical mantissa scale :=
      ⟨Nat.lt_of_le_of_ne bound carried, by omega, Or.inr full⟩
    rw [if_neg carried, place, dif_pos canonical]
    exact ⟨_, rfl, rfl, rfl⟩

theorem log2_mul_pow {n : Nat} (nonzero : n ≠ 0) (power : Nat) :
    (n * Nat.pow 2 power).log2 = n.log2 + power := by
  have positive : 0 < Nat.pow 2 power := Nat.two_pow_pos power
  apply (Nat.log2_eq_iff (Nat.mul_ne_zero nonzero positive.ne')).mpr
  constructor
  · rw [Nat.pow_add]
    exact Nat.mul_le_mul_right _ (Nat.log2_self_le nonzero)
  · rw [Nat.add_right_comm, Nat.pow_add]
    exact Nat.mul_lt_mul_of_pos_right Nat.lt_log2_self positive

/-- A number of 53 bits or more lies between two powers of two. -/
theorem bounds_of_log2 {n scale : Nat} (nonzero : n ≠ 0) (length : n.log2 = scale + 52) :
    Nat.pow 2 52 * Nat.pow 2 scale ≤ n ∧ n < Nat.pow 2 53 * Nat.pow 2 scale := by
  have first := Nat.log2_self_le nonzero
  have last : n < 2 ^ (n.log2 + 1) := Nat.lt_log2_self
  rw [length, Nat.add_comm, Nat.pow_add] at first
  rw [length, Nat.add_assoc, Nat.add_comm, Nat.pow_add] at last
  exact ⟨first, last⟩

/-- A whole number of units with more than 52 bits is rounded to one with as many bits. -/
theorem exists_nearest_units (negative : Bool) {n power scale : Nat} (nonzero : n ≠ 0)
    (length : n.log2 + power = scale + 52) (within : scale ≤ 2044) :
    ∃ x : Finite, nearest negative (n * Nat.pow 2 power) 1 = .finite x ∧ x.negative = negative ∧
      x.units = roundQuotient (n * Nat.pow 2 power) (Nat.pow 2 scale) * Nat.pow 2 scale := by
  have total : (n * Nat.pow 2 power).log2 = scale + 52 := (log2_mul_pow nonzero power).trans length
  have found : (n * Nat.pow 2 power / 1).log2 - 52 = scale := by
    rw [Nat.div_one, total, Nat.add_sub_cancel]
  rcases bounds_of_log2 (Nat.mul_ne_zero nonzero (Nat.two_pow_pos power).ne') total with
    ⟨first, last⟩
  rcases roundQuotient_bounds (Nat.two_pow_pos scale) first last with ⟨full, bound⟩
  rw [nearest, found, Nat.one_mul]
  exact exists_place_units negative full bound within

/-- Units are turned into ones before rounding as well. -/
theorem roundQuotient_mul_pow (n power scale : Nat) :
    (roundQuotient (n * Nat.pow 2 power) (Nat.pow 2 scale) : ℤ) =
      roundEven ((n : ℚ) / 2 ^ ((scale : ℤ) - power)) := by
  have positive : 0 < Nat.pow 2 scale := Nat.two_pow_pos scale
  rw [roundQuotient_eq _ positive, zpow_sub₀ two_ne_zero, zpow_natCast, zpow_natCast,
    div_div_eq_mul_div, Nat.pow_eq, Nat.pow_eq]
  push_cast
  rfl

/-- A natural number of 64 bits is converted to what it is rounded to. -/
theorem exists_ofInt_eq_roundTo53 {n : Nat} (short : n < 2 ^ 64) :
    ∃ x : Finite, ofInt n = .finite x ∧ x.value = roundTo53 n := by
  by_cases zero : n = 0
  · rcases ofInt_natCast (zero ▸ by decide : n < Nat.pow 2 53) with ⟨x, found, sign, magnitude⟩
    refine ⟨x, found, ?_⟩
    rw [Finite.value_of_units sign magnitude, zero, Nat.cast_zero, zero_mul, roundTo53_zero]
  · have bits : n.log2 < 64 := (Nat.log2_lt zero).mpr short
    have range : unitExponent = 1074 := rfl
    have length : n.log2 + unitExponent = n.log2 + 1022 + 52 := by omega
    have positive : decide ((n : ℤ) < 0) = false := decide_eq_false (by omega)
    have place : ((n.log2 + 1022 : Nat) : ℤ) - unitExponent = Int.log 2 (n : ℚ) - 52 := by
      rw [Int.log_natCast, ← Nat.log2_eq_log_two]
      omega
    rcases exists_nearest_units false zero length (by omega) with ⟨x, found, sign, magnitude⟩
    refine ⟨x, ?_, ?_⟩
    · rw [ofInt, positive, Int.natAbs_natCast]
      delta one
      rw [found]
    · rw [Finite.value_of_units sign magnitude, ← Int.cast_natCast (roundQuotient _ _),
        roundQuotient_mul_pow, place, roundTo53]

end Binary64
end FrameMachine
