import FrameMachine.Proofs.Rounding
import Mathlib.Data.List.Infix

namespace FrameMachine
namespace Binary64

/-!
# What gathering loses

A hexadecimal numeral may have any number of digits, and only the first sixteen or so are taken
into the mantissa.  All others are dropped, and each of them that is not zero makes the mantissa
odd.  So the mantissa is exact, or it is an odd number of sixty bits that is less than one away
from the exact quotient.  Rounding to 53 significant bits does not tell the two apart.
-/

/-! ## The value of a numeral -/

/-- The number that a hexadecimal numeral denotes.  The digits in front of the point count powers
of sixteen and those behind it powers of its inverse, from the first on. -/
def hexadecimalValue (whole fraction : List Nat) (exponent : Int) : ℚ :=
  (Nat.ofDigits (16 : ℚ) whole.reverse + Nat.ofDigits (16 : ℚ)⁻¹ (0 :: fraction)) * 2 ^ exponent

theorem pow_mul_zpow (count : Nat) (exponent : Int) :
    (16 : ℚ) ^ count * 2 ^ exponent = 2 ^ (exponent + 4 * count) := by
  have sixteen : (16 : ℚ) ^ count = 2 ^ (4 * (count : ℤ)) := by
    rw [zpow_mul, zpow_natCast]
    norm_num
  rw [sixteen, ← zpow_add₀ two_ne_zero, add_comm]

/-- The digits behind the point are a numerator over a power of sixteen. -/
theorem ofDigits_inv_mul_pow (fraction : List Nat) :
    Nat.ofDigits (16 : ℚ)⁻¹ (0 :: fraction) * 16 ^ fraction.length =
      Numeral.ofDigits 16 fraction := by
  induction fraction with
  | nil => simp [Nat.ofDigits, Numeral.ofDigits]
  | cons digit fraction inductionHypothesis =>
      rw [Nat.ofDigits, Nat.cast_zero, zero_add] at inductionHypothesis ⊢
      rw [Nat.ofDigits, Numeral.ofDigits_cons, Nat.pow_eq, List.length_cons, pow_succ]
      push_cast
      rw [← inductionHypothesis]
      ring

/-- The value of a numeral is that of all its digits, as if there were no point, with a lower
exponent. -/
theorem hexadecimalValue_eq (whole fraction : List Nat) (exponent : Int) :
    hexadecimalValue whole fraction exponent =
      Numeral.ofDigits 16 (whole ++ fraction) * 2 ^ (exponent - 4 * fraction.length) := by
  have front : Nat.ofDigits (16 : ℚ) whole.reverse = Numeral.ofDigits 16 whole := by
    rw [Numeral.ofDigits_eq, Nat.coe_ofDigits, Nat.cast_ofNat]
  have power := pow_mul_zpow fraction.length (exponent - 4 * fraction.length)
  rw [sub_add_cancel] at power
  rw [hexadecimalValue, front, Numeral.ofDigits_append, ← power, ← mul_assoc, add_mul,
    ofDigits_inv_mul_pow]
  push_cast
  rfl

/-! ## Digits that were dropped -/

namespace Gathered

section MadeOf

variable {taken dropped : List Nat} {gathered : Gathered}

/-- Zeros that were dropped are accounted for by the exponent. -/
theorem IsMadeOf.exact (made : gathered.IsMadeOf taken dropped)
    (zeros : ∀ digit ∈ dropped, digit = 0) :
    gathered.mantissa * 16 ^ dropped.length = Numeral.ofDigits 16 (taken ++ dropped) := by
  rw [made.marked, foldl_mark, if_pos zeros, Numeral.ofDigits_append,
    (Numeral.ofDigits_eq_zero_iff (by decide)).mpr zeros, Nat.add_zero]

/-- A mantissa that was marked is long and odd, and less than one away from the quotient. -/
theorem IsMadeOf.sticky (made : gathered.IsMadeOf taken dropped)
    (nonzero : ∃ digit ∈ dropped, digit ≠ 0) :
    2 ^ 59 ≤ gathered.mantissa ∧ gathered.mantissa % 2 = 1 ∧
      gathered.mantissa * 16 ^ dropped.length <
        Numeral.ofDigits 16 (taken ++ dropped) + 16 ^ dropped.length ∧
      Numeral.ofDigits 16 (taken ++ dropped) <
        gathered.mantissa * 16 ^ dropped.length + 16 ^ dropped.length := by
  have notZeros : ¬ ∀ digit ∈ dropped, digit = 0 := by
    rcases nonzero with ⟨digit, member, different⟩
    exact fun zeros => different (zeros digit member)
  have some : dropped ≠ [] := by
    rintro rfl
    exact notZeros (List.forall_mem_nil _)
  have positive : Numeral.ofDigits 16 dropped ≠ 0 :=
    mt (Numeral.ofDigits_eq_zero_iff (by decide)).mp notZeros
  have bound := Numeral.ofDigits_lt_pow (by decide : 1 < 16) made.digits
  have marked := made.marked
  rw [foldl_mark, if_neg notZeros] at marked
  refine ⟨Nat.le_trans (made.full some) made.le_mantissa, by omega, ?_⟩
  rw [Numeral.ofDigits_append]
  -- The digits taken denote the mantissa itself or the even number in front of it.
  rcases Nat.mod_two_eq_zero_or_one (Numeral.ofDigits 16 taken) with even | odd
  · have next : gathered.mantissa = Numeral.ofDigits 16 taken + 1 := by omega
    rw [next, Nat.add_mul]
    omega
  · have same : gathered.mantissa = Numeral.ofDigits 16 taken := by omega
    rw [same]
    omega

end MadeOf

/-! ## Range -/

/-- The states of the two loops, the first and the last among them. -/
def passed (wholeDigits fractionDigits : List Nat) (exponent : Int) : List Gathered :=
  wholeDigits.inits.map (fun digits => ofDigits digits [] exponent) ++
    fractionDigits.inits.map (fun digits => ofDigits wholeDigits digits exponent)

section Range

variable {wholeDigits fractionDigits : List Nat}

/-- Mantissa and exponent are in range if the numeral is not longer than memory can hold. -/
theorem ofDigits_bounds (small : ∀ digit ∈ wholeDigits, digit < 16)
    (smallBehind : ∀ digit ∈ fractionDigits, digit < 16) {exponent : Int}
    (short : exponent.natAbs + 4 * (wholeDigits.length + fractionDigits.length) < 2 ^ 63) :
    (ofDigits wholeDigits fractionDigits exponent).mantissa < 2 ^ 63 ∧
      Numeral.FitsWord (ofDigits wholeDigits fractionDigits exponent).exponent := by
  rcases exists_isMadeOf small smallBehind exponent with ⟨taken, seen, made⟩
  have lengths := congrArg List.length seen
  rw [List.length_append, List.length_append] at lengths
  refine ⟨made.mantissa_lt, ?_⟩
  rw [exponent_ofDigits, Numeral.FitsWord]
  omega

theorem passed_bounds (small : ∀ digit ∈ wholeDigits, digit < 16)
    (smallBehind : ∀ digit ∈ fractionDigits, digit < 16) {exponent : Int}
    (short : exponent.natAbs + 4 * (wholeDigits.length + fractionDigits.length) < 2 ^ 63) :
    ∀ state ∈ passed wholeDigits fractionDigits exponent,
      state.mantissa < 2 ^ 63 ∧ Numeral.FitsWord state.exponent := by
  intro state member
  rcases List.mem_append.mp member with front | behind
  · rcases List.mem_map.mp front with ⟨digits, initial, rfl⟩
    have segment := (List.mem_inits _ _).mp initial
    have shorter := segment.length_le
    apply ofDigits_bounds (fun digit inside => small digit (segment.subset inside))
      (List.forall_mem_nil _)
    rw [List.length_nil]
    omega
  · rcases List.mem_map.mp behind with ⟨digits, initial, rfl⟩
    have segment := (List.mem_inits _ _).mp initial
    have shorter := segment.length_le
    apply ofDigits_bounds small (fun digit inside => smallBehind digit (segment.subset inside))
    omega

end Range

/-! ## Rounding -/

/-- The gathered numeral stands for a number of which some digits were dropped.  Either only
zeros were dropped and it is the number, or it is odd and long and next to the number.  In both
cases it is rounded like the number. -/
structure StandsFor (gathered : Gathered) (dropped : List Nat) (value : ℚ) : Prop where
  short : gathered.mantissa < 2 ^ 63
  exact : (∀ digit ∈ dropped, digit = 0) → gathered.mantissa * 2 ^ gathered.exponent = value
  sticky : (∃ digit ∈ dropped, digit ≠ 0) → 2 ^ 59 ≤ gathered.mantissa ∧
    gathered.mantissa % 2 = 1 ∧
    |gathered.mantissa * 2 ^ gathered.exponent - value| < 2 ^ gathered.exponent
  rounded : roundTo53 (gathered.mantissa * 2 ^ gathered.exponent) = roundTo53 value

theorem IsMadeOf.standsFor {gathered : Gathered} {taken dropped : List Nat} {base : Int}
    (made : gathered.IsMadeOf taken dropped)
    (exponent : gathered.exponent = base + 4 * dropped.length) :
    gathered.StandsFor dropped (Numeral.ofDigits 16 (taken ++ dropped) * 2 ^ base) := by
  have unit : (0 : ℚ) < 2 ^ base := zpow_pos two_pos base
  have scaled : (gathered.mantissa : ℚ) * 2 ^ gathered.exponent =
      (gathered.mantissa * 16 ^ dropped.length : Nat) * 2 ^ base := by
    rw [exponent, ← pow_mul_zpow, ← mul_assoc, Nat.cast_mul, Nat.cast_pow, Nat.cast_ofNat]
  have exact (zeros : ∀ digit ∈ dropped, digit = 0) :
      (gathered.mantissa : ℚ) * 2 ^ gathered.exponent =
        Numeral.ofDigits 16 (taken ++ dropped) * 2 ^ base := by
    rw [scaled, made.exact zeros]
  have sticky (nonzero : ∃ digit ∈ dropped, digit ≠ 0) :
      2 ^ 59 ≤ gathered.mantissa ∧ gathered.mantissa % 2 = 1 ∧
        |(gathered.mantissa : ℚ) * 2 ^ gathered.exponent -
          Numeral.ofDigits 16 (taken ++ dropped) * 2 ^ base| < 2 ^ gathered.exponent := by
    rcases made.sticky nonzero with ⟨long, odd, above, below⟩
    refine ⟨long, odd, ?_⟩
    have aboveCast : ((gathered.mantissa * 16 ^ dropped.length : Nat) : ℚ) <
        Numeral.ofDigits 16 (taken ++ dropped) + 16 ^ dropped.length := by
      exact_mod_cast above
    have belowCast : (Numeral.ofDigits 16 (taken ++ dropped) : ℚ) <
        (gathered.mantissa * 16 ^ dropped.length : Nat) + 16 ^ dropped.length := by
      exact_mod_cast below
    rw [scaled, exponent, ← pow_mul_zpow, ← sub_mul, abs_mul, abs_of_pos unit]
    apply mul_lt_mul_of_pos_right _ unit
    exact abs_lt.mpr ⟨by linarith, by linarith⟩
  refine ⟨made.mantissa_lt, exact, sticky, ?_⟩
  by_cases zeros : ∀ digit ∈ dropped, digit = 0
  · rw [exact zeros]
  · push Not at zeros
    rcases sticky zeros with ⟨long, odd, near⟩
    exact roundTo53_mul_eq_of_near long odd near

theorem standsFor_ofDigits {wholeDigits fractionDigits : List Nat}
    (small : ∀ digit ∈ wholeDigits, digit < 16)
    (smallBehind : ∀ digit ∈ fractionDigits, digit < 16) (exponent : Int) :
    (ofDigits wholeDigits fractionDigits exponent).StandsFor
      (dropped wholeDigits fractionDigits exponent)
      (hexadecimalValue wholeDigits fractionDigits exponent) := by
  rcases exists_isMadeOf small smallBehind exponent with ⟨taken, seen, made⟩
  rw [hexadecimalValue_eq, ← seen]
  exact made.standsFor (exponent_ofDigits wholeDigits fractionDigits exponent)

end Gathered

/-- Every hexadecimal numeral is gathered without leaving the range of a word, and what is
gathered is rounded to 53 significant bits like the value of the numeral.  The mantissa itself is
converted to the number so rounded, up to the power of two that is still to come. -/
theorem gather?_rounds_like_value {text : List Char} {whole fraction : List Nat} {exponent : Int}
    (numeral : IsHexadecimal text whole fraction exponent)
    (short : exponent.natAbs + 4 * (whole.length + fraction.length) < 2 ^ 63) :
    ∃ gathered, gather? text = some gathered ∧
      gathered ∈ Gathered.passed whole fraction exponent ∧
      (∀ state ∈ Gathered.passed whole fraction exponent,
        state.mantissa < 2 ^ 63 ∧ Numeral.FitsWord state.exponent) ∧
      gathered.StandsFor (Gathered.dropped whole fraction exponent)
        (hexadecimalValue whole fraction exponent) ∧
      ∃ x : Finite, ofInt gathered.mantissa = .finite x ∧
        x.value * 2 ^ gathered.exponent =
          roundTo53 (hexadecimalValue whole fraction exponent) := by
  have fits : Numeral.FitsWord exponent := by
    rw [Numeral.FitsWord]
    omega
  rcases numeral.lt with ⟨small, smallBehind⟩
  have stands := Gathered.standsFor_ofDigits small smallBehind exponent
  rcases exists_ofInt_eq_roundTo53 (Nat.lt_trans stands.short (by decide)) with
    ⟨x, converted, value⟩
  refine ⟨Gathered.ofDigits whole fraction exponent, numeral.gather?_eq fits, ?_,
    Gathered.passed_bounds small smallBehind short, stands, x, converted, ?_⟩
  · apply List.mem_append_right
    exact List.mem_map.mpr ⟨fraction, (List.mem_inits _ _).mpr List.prefix_rfl, rfl⟩
  · rw [value, ← roundTo53_mul_zpow (Nat.cast_nonneg _), stands.rounded]

/-- One and half a unit in its last place, which alone would be a tie, and a last digit that is
dropped. -/
theorem gather?_rounds_like_value_tie :
    IsHexadecimal "1.00000000000008000000001P-3".toList [1]
      [0, 0, 0, 0, 0, 0, 0, 0, 0, 0, 0, 0, 0, 8, 0, 0, 0, 0, 0, 0, 0, 0, 1] (-3) ∧
    gather? "1.00000000000008000000001P-3".toList = some ⟨2 ^ 60 + 2 ^ 7 + 1, -63⟩ ∧
    Gathered.StandsFor ⟨2 ^ 60 + 2 ^ 7 + 1, -63⟩ [0, 0, 0, 0, 0, 0, 0, 1] (hexadecimalValue [1]
      [0, 0, 0, 0, 0, 0, 0, 0, 0, 0, 0, 0, 0, 8, 0, 0, 0, 0, 0, 0, 0, 0, 1] (-3)) := by
  have front : List.Forall₂ (Numeral.IsDigit 16) ['1'] [1] :=
    (Numeral.digits?_eq_some_iff (by decide)).mp (by decide +kernel)
  have behind : List.Forall₂ (Numeral.IsDigit 16) "00000000000008000000001".toList
      [0, 0, 0, 0, 0, 0, 0, 0, 0, 0, 0, 0, 0, 8, 0, 0, 0, 0, 0, 0, 0, 0, 1] :=
    (Numeral.digits?_eq_some_iff (by decide)).mp (by decide +kernel)
  have power : Numeral.IsNatural 10 ['3'] 3 :=
    (Numeral.natural?_eq_some_iff (by decide)).mp (by decide +kernel)
  have numeral := IsHexadecimal.scaled (.pointed (Or.inl (List.cons_ne_nil '1' [])) front behind)
    (Or.inr rfl) .minus power
  have known : gather? "1.00000000000008000000001P-3".toList =
      some ⟨2 ^ 60 + 2 ^ 7 + 1, -63⟩ := by
    decide +kernel
  rcases gather?_rounds_like_value numeral (by decide) with ⟨gathered, found, -, -, stands, -⟩
  rw [← Option.some.inj (known.symm.trans found)] at stands
  exact ⟨numeral, known, stands⟩

end Binary64
end FrameMachine
