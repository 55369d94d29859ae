import FrameMachine.Proofs.Rounding

namespace FrameMachine
namespace Binary64

/-!
# The nearest number of the format

What it means that an integer is rounded to a number can be said without any arithmetic of
mantissas: no other number of the format is nearer, and where two are equally near it is the
one whose mantissa is even.  The conversion of 64-bit integers does this.  Everything else that
is needed of it follows from the two properties: rounding never passes a number of the format,
so that an integer which is one of them is kept.
-/

/-! ## Rounded quotients -/

section Quotient

variable {denominator : Nat}

/-- A rounded quotient is off by one half at most, and by one half only if it is even. -/
theorem roundQuotient_error (numerator : Nat) (positive : 0 < denominator) :
    2 * ((numerator : ℤ) - (roundQuotient numerator denominator * denominator : Nat)).natAbs ≤
        denominator ∧
      (2 * ((numerator : ℤ) - (roundQuotient numerator denominator * denominator : Nat)).natAbs =
        denominator → roundQuotient numerator denominator % 2 = 0) := by
  have parts := Nat.div_add_mod' numerator denominator
  have small := Nat.mod_lt numerator positive
  have next := Nat.add_one_mul (numerator / denominator) denominator
  unfold roundQuotient
  dsimp only
  split_ifs <;> omega

/-- No multiple of the denominator is nearer to the numerator than the rounded quotient is.
Another one that is as near is odd, and the rounded quotient is even. -/
theorem roundQuotient_nearest (numerator : Nat) (positive : 0 < denominator) (other : Nat) :
    ((numerator : ℤ) - (roundQuotient numerator denominator * denominator : Nat)).natAbs ≤
        ((numerator : ℤ) - (other * denominator : Nat)).natAbs ∧
      (((numerator : ℤ) - (other * denominator : Nat)).natAbs =
          ((numerator : ℤ) - (roundQuotient numerator denominator * denominator : Nat)).natAbs →
        other = roundQuotient numerator denominator ∨
          roundQuotient numerator denominator % 2 = 0 ∧ other % 2 = 1) := by
  rcases roundQuotient_error numerator positive with ⟨half, even⟩
  -- The rounded quotient is off by one half, and each step to another multiple is a whole one.
  have steps : (((other * denominator : Nat) : ℤ) -
      (roundQuotient numerator denominator * denominator : Nat)).natAbs =
      ((other : ℤ) - roundQuotient numerator denominator).natAbs * denominator := by
    rw [Nat.cast_mul, Nat.cast_mul, ← sub_mul, Int.natAbs_mul, Int.natAbs_natCast]
  have apart : other = roundQuotient numerator denominator ∨
      ((other : ℤ) - roundQuotient numerator denominator).natAbs = 1 ∨
      2 ≤ ((other : ℤ) - roundQuotient numerator denominator).natAbs := by
    omega
  rcases apart with same | next | further
  · rw [same]
    exact ⟨Nat.le_refl _, fun _ => Or.inl rfl⟩
  · rw [next, Nat.one_mul] at steps
    omega
  · have double := Nat.mul_le_mul_right denominator further
    rw [← steps] at double
    omega

end Quotient

/-! ## Nearest magnitudes -/

/-- Whether a number is nearest to a point, where the numbers stand at whole positions, and the
even one of two that are equally near. -/
structure IsNearest (position : Finite → ℤ) (point : ℤ) (x : Finite) : Prop where
  nearest : ∀ y, (point - position x).natAbs ≤ (point - position y).natAbs
  even : ∀ y, (point - position y).natAbs = (point - position x).natAbs →
    position y = position x ∨ x.mantissa % 2 = 0 ∧ y.mantissa % 2 = 1

/-- A number that stands at a point is nearest to it. -/
theorem isNearest_of_eq {position : Finite → ℤ} {point : ℤ} {x : Finite}
    (same : position x = point) : IsNearest position point x := by
  rw [← same]
  constructor
  · intro y
    omega
  · intro y equal
    exact Or.inl (by omega)

/-- The place of a number without its sign. -/
def Finite.height (x : Finite) : ℤ :=
  x.units

section Magnitude

variable {x : Finite} {mantissa scale : Nat}

/-- A number that stands for an even mantissa of full length has an even mantissa itself, also
where the mantissa had to be halved to be placed. -/
theorem Finite.even_of_units (units : x.units = mantissa * Nat.pow 2 scale)
    (full : Nat.pow 2 52 ≤ mantissa) (bound : mantissa ≤ Nat.pow 2 53) (within : scale ≤ 2044)
    (even : mantissa % 2 = 0) : x.mantissa % 2 = 0 := by
  rcases Nat.eq_or_lt_of_le bound with carried | small
  · have canonical : Canonical (Nat.pow 2 52) (scale + 1) :=
      ⟨by decide, by omega, Or.inr (Nat.le_refl _)⟩
    have halved : x.units = Nat.pow 2 52 * Nat.pow 2 (scale + 1) := by
      have next : Nat.pow 2 (scale + 1) = 2 * Nat.pow 2 scale := Nat.pow_succ'
      rw [units, carried, next, ← Nat.mul_assoc]
    have known : x = ⟨x.negative, Nat.pow 2 52, scale + 1, canonical⟩ := eq_of_units rfl halved
    rw [known]
    exact (by decide : Nat.pow 2 52 % 2 = 0)
  · have canonical : Canonical mantissa scale := ⟨small, by omega, Or.inr full⟩
    have known : x = ⟨x.negative, mantissa, scale, canonical⟩ := eq_of_units rfl units
    rw [known]
    exact even

/-- A number whose scale is not lower than a given one is a multiple at that scale. -/
theorem Finite.units_eq_mul (y : Finite) (raised : scale ≤ y.scale) :
    y.units = y.mantissa * Nat.pow 2 (y.scale - scale) * Nat.pow 2 scale := by
  rw [units, Nat.mul_assoc]
  congr 1
  rw [Nat.pow_eq, Nat.pow_eq, Nat.pow_eq, ← Nat.pow_add, Nat.sub_add_cancel raised]

/-- A number whose scale is lower than a given one is below the full mantissas at that scale. -/
theorem Finite.units_lt (y : Finite) (lowered : y.scale < scale) :
    y.units < Nat.pow 2 52 * Nat.pow 2 scale := by
  calc
    y.units < Nat.pow 2 53 * Nat.pow 2 y.scale :=
      Nat.mul_lt_mul_of_pos_right y.canonical.1 (Nat.two_pow_pos _)
    _ = Nat.pow 2 52 * Nat.pow 2 (y.scale + 1) := by
      have next : Nat.pow 2 (y.scale + 1) = 2 * Nat.pow 2 y.scale := Nat.pow_succ'
      rw [next, ← Nat.mul_assoc]
    _ ≤ Nat.pow 2 52 * Nat.pow 2 scale :=
      Nat.mul_le_mul_left _ (Nat.pow_le_pow_right Nat.two_pos lowered)

/-- A magnitude whose mantissa has been rounded is the nearest one.  The other numbers are
multiples at the same scale, or they are on the other side of a power of two. -/
theorem isNearest_height {magnitude : Nat}
    (units : x.units = roundQuotient magnitude (Nat.pow 2 scale) * Nat.pow 2 scale)
    (nonzero : magnitude ≠ 0) (length : magnitude.log2 = scale + 52) (within : scale ≤ 2044) :
    IsNearest Finite.height magnitude x := by
  have positive : 0 < Nat.pow 2 scale := Nat.two_pow_pos scale
  rcases bounds_of_log2 nonzero length with ⟨first, last⟩
  rcases roundQuotient_bounds positive first last with ⟨full, bound⟩
  have multiple := roundQuotient_nearest magnitude positive
  rw [← units] at multiple
  have passed {y : Finite} (lowered : y.scale < scale) :
      ((magnitude : ℤ) - x.units).natAbs < ((magnitude : ℤ) - y.units).natAbs := by
    have less := y.units_lt lowered
    have power := (multiple (Nat.pow 2 52)).1
    omega
  constructor
  · intro y
    rcases Nat.lt_or_ge y.scale scale with lowered | raised
    · exact Nat.le_of_lt (passed lowered)
    · rw [Finite.height, Finite.height, y.units_eq_mul raised]
      exact (multiple _).1
  · intro y same
    rcases Nat.lt_or_ge y.scale scale with lowered | raised
    · exact absurd same.symm (Nat.ne_of_lt (passed lowered))
    · rw [Finite.height, Finite.height, y.units_eq_mul raised] at same ⊢
      rcases (multiple _).2 same with equal | ⟨even, odd⟩
      · rw [equal, units]
        exact Or.inl rfl
      · have unscaled := Nat.Odd.of_mul_left (Nat.odd_iff.mpr odd)
        exact Or.inr ⟨Finite.even_of_units units full bound within even, Nat.odd_iff.mp unscaled⟩

/-- Rounding finds the nearest magnitude. -/
theorem exists_nearest_isNearest (negative : Bool) {n power : Nat} (nonzero : n ≠ 0)
    (length : n.log2 + power = scale + 52) (within : scale ≤ 2044) :
    ∃ x : Finite, nearest negative (n * Nat.pow 2 power) 1 = .finite x ∧ x.negative = negative ∧
      IsNearest Finite.height (n * Nat.pow 2 power : Nat) x := by
  rcases exists_nearest_units negative nonzero length within with ⟨x, found, sign, units⟩
  have total : (n * Nat.pow 2 power).log2 = scale + 52 := (log2_mul_pow nonzero power).trans length
  have product := Nat.mul_ne_zero nonzero (Nat.two_pow_pos power).ne'
  exact ⟨x, found, sign, isNearest_height units product total within⟩

/-- With the sign of a point, the nearest magnitude is the nearest number: the numbers on the
other side of zero are further away. -/
theorem IsNearest.signed {magnitude : Nat} (near : IsNearest Finite.height magnitude x)
    (nonzero : magnitude ≠ 0) {point : ℤ}
    (signed : point = if x.negative then -(magnitude : ℤ) else magnitude) :
    IsNearest Finite.signedUnits point x := by
  rw [signed]
  constructor
  · intro y
    have least := near.nearest y
    simp only [Finite.height, Finite.signedUnits] at least ⊢
    split_ifs <;> omega
  · intro y same
    have least := near.nearest y
    have even := near.even y
    simp only [Finite.height, Finite.signedUnits] at least even same ⊢
    split_ifs at same ⊢ <;> omega

end Magnitude

/-! ## Rounding -/

/-- Whether a number is the one that an integer is rounded to: no other number of the format is
nearer, and of two that are equally near it is the one whose mantissa is even, while that of the
other is odd. -/
structure RoundsTo (n : ℤ) (x : Finite) : Prop where
  nearest : ∀ y : Finite, |n - x.value| ≤ |n - y.value|
  even : ∀ y : Finite, |n - y.value| = |n - x.value| →
    y.value = x.value ∨ x.mantissa % 2 = 0 ∧ y.mantissa % 2 = 1

/-- An integer is rounded to one value only. -/
theorem RoundsTo.value_unique {n : ℤ} {x y : Finite} (first : RoundsTo n x)
    (second : RoundsTo n y) : y.value = x.value := by
  have tie : |n - y.value| = |n - x.value| := le_antisymm (second.nearest x) (first.nearest y)
  rcases first.even y tie with same | ⟨even, -⟩
  · exact same
  · rcases second.even x tie.symm with same | ⟨-, odd⟩
    · exact same.symm
    · omega

theorem pow_unitExponent : Nat.pow 2 unitExponent = one := by
  delta one
  rfl

theorem cast_one : ((one : Nat) : ℚ) = 2 ^ unitExponent := by
  rw [← pow_unitExponent, Nat.pow_eq, Nat.cast_pow, Nat.cast_ofNat]

theorem cast_one_pos : (0 : ℚ) < (one : Nat) := by
  rw [cast_one]
  exact pow_pos two_pos unitExponent

theorem mul_unit_eq_div (units : ℚ) : units * 2 ^ (-(unitExponent : ℤ)) = units / (one : Nat) := by
  rw [zpow_neg, zpow_natCast, ← div_eq_mul_inv, cast_one]

theorem Finite.value_eq_div (x : Finite) : x.value = x.signedUnits / (one : Nat) := by
  rw [value, mul_unit_eq_div]

/-- Distances are whole numbers of units. -/
theorem Finite.distance_eq (n : ℤ) (x : Finite) :
    |n - x.value| = ((n * (one : Nat) - x.signedUnits).natAbs : ℚ) / (one : Nat) := by
  have whole : (n : ℚ) - x.value = ((n * (one : Nat) - x.signedUnits : ℤ) : ℚ) / (one : Nat) := by
    rw [x.value_eq_div, Int.cast_sub, Int.cast_mul, Int.cast_natCast, sub_div,
      mul_div_cancel_right₀ _ cast_one_pos.ne']
  rw [whole, abs_div, abs_of_pos cast_one_pos, Nat.cast_natAbs, Int.cast_abs]

/-- Rounding may be judged in units. -/
theorem IsNearest.roundsTo {n : ℤ} {x : Finite}
    (near : IsNearest Finite.signedUnits (n * (one : Nat)) x) : RoundsTo n x := by
  constructor
  · intro y
    rw [Finite.distance_eq, Finite.distance_eq, div_le_div_iff_of_pos_right cast_one_pos,
      Nat.cast_le]
    exact near.nearest y
  · intro y same
    rw [Finite.distance_eq, Finite.distance_eq, div_left_inj' cast_one_pos.ne', Nat.cast_inj]
      at same
    rw [Finite.value_eq_div, Finite.value_eq_div, div_left_inj' cast_one_pos.ne', Int.cast_inj]
    exact near.even y same

/-- An integer in units, by its sign and its magnitude. -/
theorem mul_one_eq (n : ℤ) :
    n * (one : Nat) = if decide (n < 0) then -((n.natAbs * one : Nat) : ℤ)
      else (n.natAbs * one : Nat) := by
  simp only [decide_eq_true_eq, Nat.cast_mul, Int.natCast_natAbs]
  split
  · rename_i negative
    rw [abs_of_neg negative, neg_mul, neg_neg]
  · rename_i positive
    rw [abs_of_nonneg (Int.not_lt.mp positive)]

/-- The 64-bit integers are rounded when they are converted. -/
theorem exists_ofInt_roundsTo {n : ℤ} (short : n.natAbs < 2 ^ 64) :
    ∃ x : Finite, ofInt n = .finite x ∧ RoundsTo n x := by
  by_cases zero : n.natAbs = 0
  · -- Zero has no leading bit that would tell its scale, but it is exact.
    rcases ofInt_natCast (by decide : 0 < Nat.pow 2 53) with ⟨x, found, sign, units⟩
    have nothing : n = 0 := Int.natAbs_eq_zero.mp zero
    have stands : x.signedUnits = n * (one : Nat) := by
      rw [Finite.signedUnits, units, nothing, Nat.zero_mul, zero_mul, Int.natCast_zero, neg_zero,
        ite_self]
    exact ⟨x, nothing ▸ found, (isNearest_of_eq stands).roundsTo⟩
  · have bits : n.natAbs.log2 < 64 := (Nat.log2_lt zero).mpr short
    have range : unitExponent = 1074 := rfl
    have length : n.natAbs.log2 + unitExponent = n.natAbs.log2 + 1022 + 52 := by omega
    have product : n.natAbs * one ≠ 0 := Nat.mul_ne_zero zero (Nat.cast_pos.mp cast_one_pos).ne'
    rcases exists_nearest_isNearest (decide (n < 0)) zero length (by omega) with
      ⟨x, found, sign, near⟩
    rw [pow_unitExponent] at found near
    have signed := mul_one_eq n
    rw [← sign] at signed
    refine ⟨x, ?_, (near.signed product signed).roundsTo⟩
    rw [ofInt, found]

/-! ## Integers of the format -/

section Exact

variable {n : ℤ} {x : Finite}

/-- Whether an integer is a number of the format. -/
def IsExact (n : ℤ) : Prop :=
  ∃ x : Finite, x.value = n

/-- An integer is a number of the format if 53 bits and a power of two make it up. -/
theorem isExact_of_factors {mantissa power : Nat} (magnitude : n.natAbs = mantissa * 2 ^ power)
    (small : mantissa < Nat.pow 2 53) (within : power ≤ 971) : IsExact n := by
  have range : unitExponent = 1074 := rfl
  rcases Finite.exists_units (decide (n < 0)) small (by omega : power + unitExponent ≤ 2045) with
    ⟨x, sign, placed⟩
  have units : x.units = n.natAbs * one := by
    rw [placed, magnitude, ← pow_unitExponent, Nat.mul_assoc, Nat.pow_eq, Nat.pow_eq, Nat.pow_add]
  have stands : x.signedUnits = n * (one : Nat) := by
    rw [Finite.signedUnits, sign, units, mul_one_eq]
  refine ⟨x, ?_⟩
  rw [x.value_eq_div, stands, Int.cast_mul, Int.cast_natCast,
    mul_div_cancel_right₀ _ cast_one_pos.ne']

theorem isExact_of_short (short : n.natAbs ≤ 2 ^ 53) : IsExact n := by
  rcases Nat.eq_or_lt_of_le short with full | less
  · exact isExact_of_factors (full.trans (Nat.one_mul _).symm) (by decide) (by decide)
  · exact isExact_of_factors (Nat.mul_one _).symm less (Nat.zero_le _)

/-- Rounding does not go below a number of the format. -/
theorem RoundsTo.le_of_le (rounds : RoundsTo n x) {k : ℤ} (exact : IsExact k) (below : k ≤ n) :
    (k : ℚ) ≤ x.value := by
  rcases exact with ⟨y, same⟩
  have belowCast : (k : ℚ) ≤ n := by exact_mod_cast below
  by_contra passed
  have near := rounds.nearest y
  rw [same, abs_of_nonneg (by linarith), abs_of_nonneg (by linarith)] at near
  linarith

/-- Rounding does not go above a number of the format. -/
theorem RoundsTo.ge_of_ge (rounds : RoundsTo n x) {k : ℤ} (exact : IsExact k) (above : n ≤ k) :
    x.value ≤ k := by
  rcases exact with ⟨y, same⟩
  have aboveCast : (n : ℚ) ≤ k := by exact_mod_cast above
  by_contra passed
  have near := rounds.nearest y
  rw [same, abs_of_nonpos (by linarith), abs_of_nonpos (by linarith)] at near
  linarith

/-- So an integer that is a number of the format is kept. -/
theorem RoundsTo.value_eq (rounds : RoundsTo n x) (exact : IsExact n) : x.value = n :=
  le_antisymm (rounds.ge_of_ge exact le_rfl) (rounds.le_of_le exact le_rfl)

end Exact

end Binary64
end FrameMachine
