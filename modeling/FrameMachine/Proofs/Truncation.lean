import FrameMachine.Proofs.IntegerArithmetic
import FrameMachine.Proofs.NearestNumber

namespace FrameMachine

/-!
# Truncation to integers

A float is converted to an integer by cutting off what stands behind the point, if the outcome
has 64 bits.  Whether it has is found out beforehand, by a comparison with the two ends of the
range as floats.  One of them is exact and belongs to the range, the other one is rounded up and
does not.  The first comparison is more strict than the outcome asks for: it refuses everything
below the least integer, also what would be cut off to it.  But nothing lies there, because a
number of the format that is so large has nothing behind the point.
-/

namespace Binary64

/-! ## Toward zero -/

/-- The integer part of a rational number, rounded toward zero. -/
def towardZero (v : ℚ) : ℤ :=
  if 0 ≤ v then ⌊v⌋ else ⌈v⌉

theorem towardZero_neg (v : ℚ) : towardZero (-v) = -towardZero v := by
  rcases lt_trichotomy v 0 with negative | zero | positive
  · rw [towardZero, towardZero, if_pos (by linarith), if_neg (by linarith), Int.floor_neg]
  · rw [zero, neg_zero, towardZero, if_pos le_rfl, Int.floor_zero, neg_zero]
  · rw [towardZero, towardZero, if_neg (by linarith), if_pos (by linarith), Int.ceil_neg]

theorem towardZero_intCast (n : ℤ) : towardZero n = n := by
  rw [towardZero, Int.floor_intCast, Int.ceil_intCast, ite_self]

/-- The integer part has 64 bits between one before the least integer and one behind the
greatest. -/
theorem fitsWord_towardZero_iff (v : ℚ) :
    Numeral.FitsWord (towardZero v) ↔ -2 ^ 63 - 1 < v ∧ v < 2 ^ 63 := by
  rw [Numeral.FitsWord, towardZero, Int.le_sub_one_iff, ← Int.sub_one_lt_iff]
  split
  · rename_i nonnegative
    have floor : 0 ≤ ⌊v⌋ := Int.floor_nonneg.mpr nonnegative
    have upper : ⌊v⌋ < 2 ^ 63 ↔ v < 2 ^ 63 := by
      rw [Int.floor_lt]
      norm_num
    rw [upper]
    exact and_congr (iff_of_true (by linarith) (by linarith)) Iff.rfl
  · rename_i negative
    have ceil : ⌈v⌉ ≤ 0 := Int.ceil_le.mpr (by push_cast; linarith)
    have lower : -2 ^ 63 - 1 < ⌈v⌉ ↔ -2 ^ 63 - 1 < v := by
      rw [Int.lt_ceil]
      norm_num
    rw [lower]
    exact and_congr Iff.rfl (iff_of_true (by linarith) (by linarith))

namespace Finite

variable (x : Finite)

theorem value_eq_signed :
    x.value =
      if x.negative then -((x.units : ℚ) / (one : Nat)) else (x.units : ℚ) / (one : Nat) := by
  rw [value_eq_div, signedUnits]
  split
  · rw [Int.cast_neg, Int.cast_natCast, neg_div]
  · rw [Int.cast_natCast]

/-- The whole part of a number is its value, rounded toward zero. -/
theorem towardZero_value : towardZero x.value = x.whole := by
  have magnitude : towardZero ((x.units : ℚ) / (one : Nat)) = x.ones := by
    rw [towardZero, if_pos (by positivity), Rat.floor_natCast_div_natCast]
    rfl
  rw [value_eq_signed, whole, Numeral.signed]
  split
  · rw [towardZero_neg, magnitude]
  · exact magnitude

/-- A number of at least 53 bits in front of the point has none behind it. -/
theorem one_dvd_units (large : Nat.pow 2 52 * one ≤ x.units) : one ∣ x.units := by
  rw [← pow_unitExponent] at large ⊢
  rcases Nat.lt_or_ge x.scale unitExponent with lowered | raised
  · exact absurd large (Nat.not_le_of_lt (x.units_lt lowered))
  · rw [x.units_eq_mul raised]
    exact Nat.dvd_mul_left _ _

theorem abs_value : |x.value| = (x.units : ℚ) / (one : Nat) := by
  have nonnegative : (0 : ℚ) ≤ (x.units : ℚ) / (one : Nat) := by positivity
  rw [value_eq_signed]
  split
  · rw [abs_neg, abs_of_nonneg nonnegative]
  · exact abs_of_nonneg nonnegative

theorem ones_mul_one (large : Nat.pow 2 52 * one ≤ x.units) : x.ones * one = x.units :=
  Nat.div_mul_cancel (x.one_dvd_units large)

/-- A number that is so large is an integer. -/
theorem value_eq_whole (large : 2 ^ 52 ≤ |x.value|) : x.value = x.whole := by
  have many : Nat.pow 2 52 * one ≤ x.units := by
    rw [abs_value, le_div_iff₀ cast_one_pos] at large
    have cast : ((Nat.pow 2 52 * one : Nat) : ℚ) ≤ x.units := by
      rw [Nat.cast_mul, Nat.pow_eq, Nat.cast_pow, Nat.cast_ofNat]
      exact large
    exact Nat.cast_le.mp cast
  have quotient : (x.units : ℚ) / (one : Nat) = x.ones := by
    rw [← x.ones_mul_one many, Nat.cast_mul, mul_div_cancel_right₀ _ cast_one_pos.ne']
  rw [value_eq_signed, whole, Numeral.signed, quotient]
  split <;> push_cast <;> rfl

/-- The integer part of a number has 64 bits exactly between the ends of the range.  What lies
beyond the least integer has no part that could be cut off. -/
theorem fitsWord_whole_iff : Numeral.FitsWord x.whole ↔ -2 ^ 63 ≤ x.value ∧ x.value < 2 ^ 63 := by
  rw [← towardZero_value, fitsWord_towardZero_iff]
  constructor
  · rintro ⟨low, high⟩
    refine ⟨?_, high⟩
    -- A value in the gap would be an integer, and no integer lies in it.
    by_contra below
    have large : 2 ^ 52 ≤ |x.value| := by
      rw [abs_of_neg (by linarith)]
      linarith
    have integer := x.value_eq_whole large
    rw [integer] at low below
    have before : -2 ^ 63 - 1 < x.whole := by exact_mod_cast low
    exact below (by exact_mod_cast (by omega : -2 ^ 63 ≤ x.whole))
  · rintro ⟨low, high⟩
    exact ⟨by linarith, high⟩

/-- Cutting off is exact, because the ones of a number make up a number. -/
theorem exists_truncate :
    ∃ y : Finite, truncate (.finite x) = .finite y ∧ y.whole = x.whole := by
  have made : ∃ y : Finite, y.negative = x.negative ∧ y.units = x.ones * one := by
    -- Either the ones fit into a mantissa, or there is nothing to cut off.
    rcases Nat.lt_or_ge x.ones (Nat.pow 2 53) with small | large
    · rw [← pow_unitExponent]
      exact exists_units x.negative small (by decide)
    · have many : Nat.pow 2 52 * one ≤ x.units :=
        (Nat.mul_le_mul_right one (by decide : Nat.pow 2 52 ≤ Nat.pow 2 53)).trans
          ((Nat.mul_le_mul_right one large).trans (Nat.div_mul_le_self _ _))
      exact ⟨x, rfl, (x.ones_mul_one many).symm⟩
  rcases made with ⟨y, sign, units⟩
  refine ⟨y, ?_, ?_⟩
  · have found := y.nearest_units Nat.one_pos
    rwa [Nat.mul_one, sign, units] at found
  · have positive : 0 < one := Nat.cast_pos.mp cast_one_pos
    have ones : y.ones = x.ones := by
      rw [Finite.ones, units, Nat.mul_div_cancel _ positive]
    rw [whole, whole, sign, ones]

theorem saturate_of_fits (fits : Numeral.FitsWord x.whole) :
    (finite x).saturate = Int64.ofInt x.whole := by
  rw [saturate, Numeral.int64?_of_fits fits, Option.getD_some]

end Finite

/-! ## The ends of the range -/

/-- The number that an end of the range is converted to. -/
def rangeLimit (negative : Bool) : Finite :=
  ⟨negative, Nat.pow 2 52, 1085, by decide⟩

theorem ofInt_rangeEnd (negative : Bool) :
    ofInt (rangeEnd negative).toInt = .finite (rangeLimit negative) := by
  cases negative <;> decide +kernel

theorem value_rangeLimit (negative : Bool) :
    (rangeLimit negative).value = if negative then -2 ^ 63 else 2 ^ 63 := by
  have units : (rangeLimit negative).units = 2 ^ 63 * one := by
    cases negative <;> decide +kernel
  rw [Finite.value_eq_signed, units, Nat.cast_mul, mul_div_cancel_right₀ _ cast_one_pos.ne',
    Nat.cast_pow, Nat.cast_ofNat]
  rfl

theorem value_lowerLimit : (rangeLimit true).value = -2 ^ 63 :=
  value_rangeLimit true

theorem value_upperLimit : (rangeLimit false).value = 2 ^ 63 :=
  value_rangeLimit false

theorem compare?_finite (x y : Finite) :
    compare? (.finite x) (.finite y) = some (compare x.signedUnits y.signedUnits) :=
  rfl

theorem Finite.value_le_iff (x y : Finite) : x.value ≤ y.value ↔ x.signedUnits ≤ y.signedUnits := by
  rw [value_eq_div, value_eq_div, div_le_div_iff_of_pos_right cast_one_pos, Int.cast_le]

theorem isBelowRange_iff (x : Finite) : (finite x).isBelowRange = true ↔ x.value < -2 ^ 63 := by
  rw [isBelowRange, ofInt_rangeEnd, compare?_finite, Option.any_some, Ordering.isLT_iff_eq_lt,
    Int.compare_eq_lt, ← Int.not_le, ← Finite.value_le_iff, value_lowerLimit, not_le]

theorem isAboveRange_iff (x : Finite) : (finite x).isAboveRange = true ↔ 2 ^ 63 ≤ x.value := by
  rw [isAboveRange, ofInt_rangeEnd, compare?_finite, Option.any_some, Int.isGE_compare,
    ← Finite.value_le_iff, value_upperLimit]

/-- A number is cut off to its whole part exactly if that has 64 bits. -/
theorem toInt64?_finite (x : Finite) : (finite x).toInt64? = Numeral.int64? x.whole := by
  have guard : (!(finite x).isFinite || (finite x).isBelowRange || (finite x).isAboveRange) = true ↔
      ¬ Numeral.FitsWord x.whole := by
    rw [Bool.or_eq_true, Bool.or_eq_true, isBelowRange_iff, isAboveRange_iff, x.fitsWord_whole_iff,
      not_and_or, not_le, not_lt]
    simp [isFinite]
  by_cases fits : Numeral.FitsWord x.whole
  · rcases x.exists_truncate with ⟨y, cut, same⟩
    rw [toInt64?, if_neg (mt guard.mp (not_not_intro fits)), Numeral.int64?_of_fits fits, cut,
      y.saturate_of_fits (same ▸ fits), same]
  · rw [toInt64?, if_pos (guard.mpr fits), Numeral.int64?_eq_none_iff.mpr fits]

/-! ## Patterns -/

/-- The value of a finite pattern.  Its highest bit is the sign. -/
def Pattern.value (bits : UInt64) : ℚ :=
  if Nat.pow 2 63 ≤ bits.toNat then -magnitude bits else magnitude bits

theorem exists_ofBits_value {bits : UInt64} (finite : Pattern.IsFinite bits) :
    ∃ x : Finite, ofBits bits = .finite x ∧ x.value = Pattern.value bits := by
  rcases exists_ofBits_eq_finite finite with ⟨x, known, sign, mantissa, scale⟩
  have magnitude : Pattern.magnitude bits = (x.units : ℚ) / (one : Nat) := by
    rw [magnitude_eq_units mantissa scale, mul_unit_eq_div]
  refine ⟨x, known, ?_⟩
  simp only [x.value_eq_signed, sign, Pattern.value, magnitude, decide_eq_true_eq]

theorem isFinite_ofBits_eq_false {bits : UInt64} (special : ¬ Pattern.IsFinite bits) :
    (ofBits bits).isFinite = false := by
  have exponent : Pattern.exponentField bits = 2047 := not_not.mp special
  have known : ofBits bits =
      if Pattern.fractionField bits = 0 then .infinite (decide (Nat.pow 2 63 ≤ bits.toNat))
      else .nan := if_pos exponent
  rw [known]
  split <;> rfl

/-! ## There and back -/

section Conversion

variable {n : ℤ} {x : Finite}

/-- An integer that is long stays long, because the shortest long ones are kept. -/
theorem RoundsTo.le_abs (rounds : RoundsTo n x) (long : 2 ^ 53 ≤ n.natAbs) :
    2 ^ 53 ≤ |x.value| := by
  rcases Int.le_total 0 n with positive | negative
  · have kept := rounds.le_of_le (isExact_of_short (by decide : Int.natAbs (2 ^ 53) ≤ 2 ^ 53))
      (by omega)
    push_cast at kept
    exact kept.trans (le_abs_self _)
  · have kept := rounds.ge_of_ge (isExact_of_short (by decide : Int.natAbs (-2 ^ 53) ≤ 2 ^ 53))
      (by omega)
    push_cast at kept
    exact (le_neg_of_le_neg kept).trans (neg_le_abs _)

/-- What an integer is rounded to is an integer. -/
theorem RoundsTo.value_eq_whole (rounds : RoundsTo n x) : x.value = x.whole := by
  rcases Nat.le_total n.natAbs (2 ^ 53) with short | long
  · rw [← x.towardZero_value, rounds.value_eq (isExact_of_short short), towardZero_intCast]
  · have large := rounds.le_abs long
    exact x.value_eq_whole (by linarith)

/-- A 64-bit integer is rounded to another one, or up to the first number beyond them. -/
theorem RoundsTo.fitsWord_whole_iff (rounds : RoundsTo n x) (fits : Numeral.FitsWord n) :
    Numeral.FitsWord x.whole ↔ x.value ≠ 2 ^ 63 := by
  have lower : IsExact (-2 ^ 63) :=
    isExact_of_factors (by decide : _ = 1 * 2 ^ 63) (by decide) (by decide)
  have upper : IsExact (2 ^ 63) :=
    isExact_of_factors (by decide : _ = 1 * 2 ^ 63) (by decide) (by decide)
  have low : -2 ^ 63 ≤ x.value := by exact_mod_cast rounds.le_of_le lower fits.1
  have high : x.value ≤ 2 ^ 63 := by
    exact_mod_cast rounds.ge_of_ge upper (Int.le_of_lt (Int.lt_of_le_sub_one fits.2))
  rw [x.fitsWord_whole_iff, high.lt_iff_ne, and_iff_right low]

end Conversion

end Binary64

namespace UnaryOperation

open Binary64 BinaryOperation

theorem apply_float2int (x : Binary64) :
    apply .float2int (.float x) =
      match x.toInt64? with
      | some n => .ok (.int n)
      | none => .error (.value (.notAnInteger x)) :=
  rfl

/-- A float with no integer is refused. -/
theorem exactOrRefused_of_toInt64?_eq_none {x : Binary64} (missing : x.toInt64? = none)
    {defined : Prop} {result : ℤ} (outside : ¬ (defined ∧ Numeral.FitsWord result)) :
    ExactOrRefused (apply .float2int (.float x)) defined result := by
  have refused : apply .float2int (.float x) = .error (.value (.notAnInteger x)) := by
    rw [apply_float2int, missing]
  exact exactOrRefused_of_refused refused rfl outside

/-- A finite float is cut off, or refused if its whole part has more than 64 bits. -/
theorem exactOrRefused_float2int (x : Finite) {defined : Prop} (holds : defined) :
    ExactOrRefused (apply .float2int (.float (.finite x))) defined x.whole := by
  by_cases fits : Numeral.FitsWord x.whole
  · apply exactOrRefused_of_computed _ holds (Numeral.toInt_ofInt_of_fits fits)
    rw [apply_float2int, toInt64?_finite, Numeral.int64?_of_fits fits]
  · have missing : (finite x).toInt64? = none := by
      rw [toInt64?_finite, Numeral.int64?_eq_none_iff.mpr fits]
    exact exactOrRefused_of_toInt64?_eq_none missing fun both => fits both.2

/-- Truncation of a bit pattern is exact or refused. -/
theorem exactOrRefused_ofBits (bits : UInt64) :
    ExactOrRefused (apply .float2int (.float (ofBits bits))) (Pattern.IsFinite bits)
      (towardZero (Pattern.value bits)) := by
  by_cases finite : Pattern.IsFinite bits
  · rcases exists_ofBits_value finite with ⟨x, known, value⟩
    rw [known, ← value, x.towardZero_value]
    exact exactOrRefused_float2int x finite
  · have missing : (ofBits bits).toInt64? = none := by
      rewrite [toInt64?, isFinite_ofBits_eq_false finite]
      rfl
    exact exactOrRefused_of_toInt64?_eq_none missing fun both => finite both.1

/-- Truncation is exact or refused.  A float is converted to an integer exactly if it is finite
and its value, rounded toward zero, has 64 bits.  The outcome is that integer, and everything else
is refused as a bad value.

So an integer that is converted to a float and back is kept if it has at most 53 bits.  Any other
one comes back as what it is rounded to, and it is refused exactly where that is `2 ^ 63`. -/
theorem truncation_exact_or_refused (bits : UInt64) (n : Int64) :
    ExactOrRefused (apply .float2int (.float (ofBits bits))) (Pattern.IsFinite bits)
      (towardZero (Pattern.value bits)) ∧
    ∃ x : Finite, apply .int2float (.int n) = .ok (.float (.finite x)) ∧
      RoundsTo n.toInt x ∧ (∀ y, RoundsTo n.toInt y → y.value = x.value) ∧
      (|n.toInt| ≤ 2 ^ 53 → apply .float2int (.float (.finite x)) = .ok (.int n)) ∧
      (x.value = 2 ^ 63 → ∃ error, apply .float2int (.float (.finite x)) = .error error ∧
        error.kind = .operandValueBad) ∧
      (x.value ≠ 2 ^ 63 → ∃ m : Int64, apply .float2int (.float (.finite x)) = .ok (.int m) ∧
        (m.toInt : ℚ) = x.value) := by
  refine ⟨exactOrRefused_ofBits bits, ?_⟩
  have fits := Numeral.fitsWord_toInt n
  have short : n.toInt.natAbs < 2 ^ 64 := by
    rw [Numeral.FitsWord] at fits
    omega
  rcases exists_ofInt_roundsTo short with ⟨x, converted, rounds⟩
  have back := exactOrRefused_float2int x trivial
  have returned (within : x.value ≠ 2 ^ 63) :
      ∃ m : Int64, apply .float2int (.float (.finite x)) = .ok (.int m) ∧
        (m.toInt : ℚ) = x.value := by
    rcases back.computes.mpr ⟨trivial, (rounds.fitsWord_whole_iff fits).mpr within⟩ with ⟨m, found⟩
    exact ⟨m, found, by rw [back.exact m found, rounds.value_eq_whole]⟩
  refine ⟨x, ?_, rounds, fun y => rounds.value_unique, ?_, ?_, returned⟩
  · rw [apply, converted]
  · intro small
    rw [Int.abs_eq_natAbs] at small
    have kept : x.value = n.toInt := rounds.value_eq (isExact_of_short (by exact_mod_cast small))
    have within : x.value ≠ 2 ^ 63 := by
      rw [kept]
      exact_mod_cast (Int.lt_of_le_sub_one fits.2).ne
    rcases returned within with ⟨m, found, same⟩
    rw [found, Int64.toInt_inj.mp (Int.cast_injective (same.trans kept))]
  · intro beyond
    apply back.refuses
    rintro ⟨-, within⟩
    exact (rounds.fitsWord_whole_iff fits).mp within beyond

/-- The pattern of `2 ^ 63` and the greatest integer are refused, the least integer comes back, and
so does the last integer of 53 bits. -/
theorem truncation_exact_or_refused_at_ends :
    (∃ error, apply .float2int (.float (ofBits 0x43E0000000000000)) = .error error ∧
      error.kind = .operandValueBad) ∧
    (∃ error, apply .float2int (.float (.finite (rangeLimit false))) = .error error ∧
      error.kind = .operandValueBad) ∧
    (∃ m : Int64, apply .float2int (.float (.finite (rangeLimit true))) = .ok (.int m) ∧
      (m.toInt : ℚ) = -2 ^ 63) ∧
    ∃ x, apply .int2float (.int 9007199254740992) = .ok (.float x) ∧
      apply .float2int (.float x) = .ok (.int 9007199254740992) := by
  have limit {negative : Bool} {x : Finite}
      (converted : apply .int2float (.int (rangeEnd negative)) = .ok (.float (.finite x))) :
      x = rangeLimit negative := by
    rw [apply, ofInt_rangeEnd] at converted
    cases converted
    rfl
  have beyond : Pattern.value 0x43E0000000000000 = 2 ^ 63 := by
    have positive : ¬ Nat.pow 2 63 ≤ (0x43E0000000000000 : UInt64).toNat := by decide
    have exponent : Pattern.exponentField 0x43E0000000000000 = 1086 := by decide
    have significand : Pattern.significand 0x43E0000000000000 = Nat.pow 2 52 := by decide
    rw [Pattern.value, if_neg positive, Pattern.magnitude, exponent, significand]
    norm_num
  rcases truncation_exact_or_refused 0x43E0000000000000 (rangeEnd false) with
    ⟨pattern, x, greatest, -, -, -, refused, -⟩
  rcases truncation_exact_or_refused 0 (rangeEnd true) with ⟨-, y, least, -, -, -, -, returned⟩
  rcases truncation_exact_or_refused 0 9007199254740992 with ⟨-, z, converted, -, -, kept, -, -⟩
  rw [limit greatest] at refused
  rw [limit least] at returned
  refine ⟨pattern.refuses ?_, refused value_upperLimit, ?_, .finite z, converted, kept (by decide)⟩
  · rw [beyond, fitsWord_towardZero_iff]
    rintro ⟨-, -, within⟩
    exact lt_irrefl _ within
  · rw [value_lowerLimit] at returned
    exact returned (by norm_num)

end UnaryOperation
end FrameMachine
