import FrameMachine.Binary64.Text
import FrameMachine.Proofs.Exactness
import FrameMachine.Proofs.HexadecimalText

namespace FrameMachine
namespace Binary64

/-!
# Floating-point numbers and their texts

The canonical text of a number is a numeral, and the numeral denotes the number.  For finite
numbers this holds without any rounding: the fourteen digits of the text are gathered into the
mantissa that the number has, the exponent brings it to the place where the number stands, and
both are in the range where scaling is exact.  Bit patterns are numbers too, with the one
exception that all patterns of a NaN are the same number here.
-/

/-! ## Digits and exponents -/

/-- The lowest hexadecimal digits of a number, and what they denote. -/
theorem exists_digits?_hexDigits (width n : Nat) :
    ∃ values, Numeral.digits? 16 (hexDigits width n) = some values ∧ values.length = width ∧
      Numeral.ofDigits 16 values = n % Nat.pow 16 width := by
  induction width generalizing n with
  | zero => exact ⟨[], rfl, rfl, (Nat.mod_one n).symm⟩
  | succ width inductionHypothesis =>
      rcases inductionHypothesis (n / 16) with ⟨values, read, length, total⟩
      have last : n % 16 < 16 := Nat.mod_lt n (by decide)
      have next : Nat.pow 16 (width + 1) = 16 * Nat.pow 16 width := Nat.pow_succ'
      refine ⟨values ++ [n % 16], ?_, ?_, ?_⟩
      · exact Numeral.digits?_append read (Numeral.digits?_digitChar last (Nat.le_refl 16))
      · rw [List.length_append, length, List.length_singleton]
      · rw [Numeral.ofDigits_concat, total, next, Nat.mod_mul, Nat.mul_comm, Nat.add_comm]

theorem exponentText_toList (exponent : Int) :
    (exponentText exponent).toList =
      (if exponent < 0 then '-' else '+') :: Nat.toDigits 10 exponent.natAbs := by
  rw [exponentText, Nat.toString_eq_ofList_toDigits]
  split <;> simp

/-! ## Hexadecimal numerals -/

section Hexadecimal

variable {lead : Nat} {digits : List Char} {values : List Nat} {exponent : Int}

/-- The characters of a numeral behind its `0x`. -/
def hexadecimal (lead : Nat) (digits : List Char) (exponent : Int) : List Char :=
  Nat.digitChar lead :: '.' :: digits ++ 'p' :: (exponentText exponent).toList

theorem isHexadecimal_hexadecimal (small : lead < 16)
    (read : Numeral.digits? 16 digits = some values) (exponent : Int) :
    IsHexadecimal (hexadecimal lead digits exponent) [lead] values exponent := by
  have readLead := Numeral.digits?_digitChar small (Nat.le_refl 16)
  have readPower := Numeral.natural?_toDigits (by decide : 1 < 10) (by decide) exponent.natAbs
  have known : Numeral.IsSign [if exponent < 0 then '-' else '+'] (decide (exponent < 0)) := by
    by_cases negative : exponent < 0
    · rw [if_pos negative, decide_eq_true negative]
      exact .minus
    · rw [if_neg negative, decide_eq_false negative]
      exact .plus
  have value : (if decide (exponent < 0) = true then -(exponent.natAbs : Int)
      else exponent.natAbs) = exponent := Numeral.signed_natAbs exponent
  have numeral := IsHexadecimal.scaled
    (.pointed (Or.inl (List.cons_ne_nil (Nat.digitChar lead) []))
      ((Numeral.digits?_eq_some_iff (by decide)).mp readLead)
      ((Numeral.digits?_eq_some_iff (by decide)).mp read))
    (Or.inl rfl) known ((Numeral.natural?_eq_some_iff (by decide)).mp readPower)
  rw [value] at numeral
  rw [hexadecimal, exponentText_toList]
  exact numeral

theorem isBlank_of_mem_hexadecimal (small : lead < 16)
    (read : Numeral.digits? 16 digits = some values) :
    ∀ c ∈ '0' :: 'x' :: hexadecimal lead digits exponent, Text.isBlank c = false := by
  have clearLead := Numeral.isBlank_of_digits? (Numeral.digits?_digitChar small (Nat.le_refl 16))
  have clearSign : Text.isBlank (if exponent < 0 then '-' else '+') = false := by
    split <;> decide
  intro c member
  rw [hexadecimal, exponentText_toList] at member
  simp only [List.cons_append, List.mem_cons, List.mem_append] at member
  rcases member with zero | x | lead | point | behind | mark | sign | behind
  · rw [zero]
    decide
  · rw [x]
    decide
  · exact clearLead c (List.mem_singleton.mpr lead)
  · rw [point]
    decide
  · exact Numeral.isBlank_of_digits? read c behind
  · rw [mark]
    decide
  · exact sign ▸ clearSign
  · exact Numeral.isBlank_of_mem_toDigits exponent.natAbs c behind

/-- A magnitude is given the sign of the number that it is the magnitude of. -/
theorem Finite.signed_eq {x number : Finite} (positive : x.negative = false)
    (sameUnits : x.units = number.units) :
    (if number.negative = true then neg (.finite x) else .finite x) = .finite number := by
  cases sign : number.negative with
  | false =>
      rw [if_neg Bool.false_ne_true]
      exact congrArg finite (Finite.eq_of_units (positive.trans sign.symm) sameUnits)
  | true =>
      rw [if_pos rfl, neg]
      apply congrArg finite
      apply Finite.eq_of_units
      · rw [sign, positive]
        rfl
      · exact sameUnits

/-- A gathered numeral that denotes the magnitude of a number without any rounding. -/
structure Gathered.Denotes (gathered : Gathered) (number : Finite) : Prop where
  small : gathered.mantissa < Nat.pow 2 53
  placed : ∃ target : Nat, (unitExponent : Int) + gathered.exponent = target ∧ target ≤ 2045 ∧
    number.units = gathered.mantissa * Nat.pow 2 target

/-- A text that is read as a hexadecimal numeral with the sign of a number and its magnitude. -/
structure Spells (text : List Char) (number : Finite) (digits : List Char)
    (gathered : Gathered) : Prop where
  divided : Numeral.splitSign (Text.trim text) = (number.negative, '0' :: 'x' :: digits)
  gathers : gather? digits = some gathered
  denotes : gathered.Denotes number

/-- A numeral whose digits fit into a mantissa and whose value is in the range of the format
spells exactly that value. -/
theorem exists_spells_hexadecimal {text : List Char} {number : Finite} {mantissa target : Nat}
    (spelled : text = Numeral.sign number.negative ++
      '0' :: 'x' :: hexadecimal lead digits exponent)
    (small : lead < 16) (read : Numeral.digits? 16 digits = some values)
    (few : values.length ≤ 14) (value : Numeral.ofDigits 16 (lead :: values) = mantissa)
    (fits : mantissa < Nat.pow 2 53)
    (total : (unitExponent : Int) + (exponent - 4 * values.length) = target)
    (reached : target ≤ 2045) (units : number.units = mantissa * Nat.pow 2 target) :
    ∃ digits gathered, Spells text number digits gathered := by
  have range : (unitExponent : Int) = 1074 := rfl
  have within : Numeral.FitsWord exponent := by
    rw [Numeral.FitsWord]
    omega
  have numeral := isHexadecimal_hexadecimal small read exponent
  have gathered := numeral.gather?_eq within
  have enough : [lead].length + values.length ≤ 15 := by
    rw [List.length_singleton]
    omega
  rw [Gathered.ofDigits_of_few numeral.lt.1 numeral.lt.2 enough, List.singleton_append,
    value] at gathered
  refine ⟨hexadecimal lead digits exponent, ⟨mantissa, exponent - 4 * values.length⟩, ?_, gathered,
    fits, target, total, reached, units⟩
  exact Numeral.splitSign_trim spelled (isBlank_of_mem_hexadecimal small read) rfl

/-- A text that spells a number is read as that number. -/
theorem Spells.ofText? {text : String} {number : Finite} {digits : List Char}
    {gathered : Gathered} (spells : Spells text.toList number digits gathered) :
    ofText? text = some (.finite number) := by
  rcases spells.denotes.placed with ⟨target, total, reached, units⟩
  rcases gathered.number_eq_finite spells.denotes.small total reached with
    ⟨x, denoted, positive, magnitude⟩
  rw [Binary64.ofText?, spells.divided]
  simp only [magnitude?, spells.gathers, Option.map_some, denoted, Option.some.injEq]
  exact Finite.signed_eq positive (magnitude.trans units.symm)

end Hexadecimal

/-! ## Reading a number back -/

theorem signText_toList (negative : Bool) : (signText negative).toList = Numeral.sign negative := by
  cases negative <;> rfl

/-- The parts of a number that its text shows. -/
theorem Finite.parts_spec (number : Finite) :
    number.parts.1 < 10 ∧ number.parts.2.1 < Nat.pow 2 52 ∧
      number.parts.1 * Nat.pow 2 52 + number.parts.2.1 = number.mantissa ∧
      number.parts.2.2 = (number.scale : Int) - 1022 := by
  rcases number.canonical with ⟨small, -, placed⟩
  have double : Nat.pow 2 53 = Nat.pow 2 52 + Nat.pow 2 52 := by decide
  by_cases short : number.mantissa < Nat.pow 2 52
  · have lowest : number.scale = 0 := by omega
    have known : number.parts = (0, number.mantissa, -1022) := by
      rw [parts, if_pos short]
    simp only [known, lowest]
    omega
  · have known : number.parts =
        (1, number.mantissa - Nat.pow 2 52, (number.scale : Int) - 1022) := by
      rw [parts, if_neg short]
    simp only [known, and_true]
    omega

theorem text_toList {number : Finite} (nonzero : number.mantissa ≠ 0) :
    (text (.finite number)).toList = Numeral.sign number.negative ++
      '0' :: 'x' :: hexadecimal number.parts.1 (hexDigits 13 number.parts.2.1)
        number.parts.2.2 := by
  have lead := Nat.toDigits_of_lt_base number.parts_spec.1
  rw [text, if_neg nonzero]
  simp [signText_toList, lead, hexadecimal]

/-- The text of a finite number spells the number. -/
theorem exists_spells_text (number : Finite) :
    ∃ digits gathered, Spells (text (.finite number)).toList number digits gathered := by
  by_cases zero : number.mantissa = 0
  · have spelled : (text (.finite number)).toList = Numeral.sign number.negative ++
        '0' :: 'x' :: hexadecimal 0 ['0'] 0 := by
      rw [text, if_pos zero, String.toList_append, signText_toList]
      rfl
    have within : ∃ target : Nat,
        (unitExponent : Int) + (0 - 4 * ([0] : List Nat).length) = target ∧ target ≤ 2045 :=
      ⟨1070, by decide, by decide⟩
    rcases within with ⟨target, total, reached⟩
    have read : Numeral.digits? 16 ['0'] = some [0] := rfl
    have value : Numeral.ofDigits 16 [0, 0] = 0 := rfl
    apply exists_spells_hexadecimal spelled (by decide) read (by decide) value (by decide) total
      reached
    rw [Finite.units, zero, Nat.zero_mul, Nat.zero_mul]
  · rcases exists_digits?_hexDigits 13 number.parts.2.1 with ⟨values, read, length, fraction⟩
    rcases number.parts_spec with ⟨lead, short, mantissa, exponent⟩
    have value : Numeral.ofDigits 16 (number.parts.1 :: values) = number.mantissa := by
      have width : Nat.pow 16 13 = Nat.pow 2 52 := by decide
      rw [Numeral.ofDigits_cons, length, fraction, width, Nat.mod_eq_of_lt short, mantissa]
    have total : (unitExponent : Int) + (number.parts.2.2 - 4 * values.length) = number.scale := by
      have range : (unitExponent : Int) = 1074 := rfl
      omega
    exact exists_spells_hexadecimal (text_toList zero) (by omega) read (by omega) value
      number.canonical.1 total number.canonical.2.1 rfl

/-- Every number is read from its own text. -/
theorem ofText?_text (x : Binary64) : ofText? x.text = some x := by
  cases x with
  | nan => decide +kernel
  | infinite negative => cases negative <;> decide +kernel
  | finite number =>
      rcases exists_spells_text number with ⟨digits, gathered, spells⟩
      exact spells.ofText?

/-! ## Bit patterns -/

namespace Pattern

/-- The biased exponent of a pattern. -/
def exponentField (bits : UInt64) : Nat :=
  bits.toNat / Nat.pow 2 52 % Nat.pow 2 11

/-- The fraction of a pattern. -/
def fractionField (bits : UInt64) : Nat :=
  bits.toNat % Nat.pow 2 52

/-- Whether the pattern is one of a NaN. -/
def IsNan (bits : UInt64) : Prop :=
  exponentField bits = 2047 ∧ fractionField bits ≠ 0

/-- Whether the pattern is one of a finite number. -/
def IsFinite (bits : UInt64) : Prop :=
  exponentField bits ≠ 2047

instance (bits : UInt64) : Decidable (IsNan bits) :=
  inferInstanceAs (Decidable (_ ∧ _))

/-- The significand of a finite pattern.  Only the lowest exponent has no hidden bit. -/
def significand (bits : UInt64) : Nat :=
  if exponentField bits = 0 then fractionField bits else Nat.pow 2 52 + fractionField bits

end Pattern

/-- A finite pattern is the finite number with its sign, its significand and its exponent. -/
theorem exists_ofBits_eq_finite {bits : UInt64} (ordinary : Pattern.IsFinite bits) :
    ∃ number : Finite, ofBits bits = .finite number ∧
      number.negative = decide (Nat.pow 2 63 ≤ bits.toNat) ∧
      number.mantissa = Pattern.significand bits ∧
      number.scale = Pattern.exponentField bits - 1 := by
  have within : Pattern.exponentField bits < 2048 := Nat.mod_lt _ (by decide)
  have short : Pattern.fractionField bits < Nat.pow 2 52 := Nat.mod_lt _ (Nat.two_pow_pos 52)
  have double : Nat.pow 2 53 = Nat.pow 2 52 + Nat.pow 2 52 := by decide
  have bounded : Pattern.exponentField bits ≠ 2047 := ordinary
  have placed : ofBits bits = place (decide (Nat.pow 2 63 ≤ bits.toNat))
      (Pattern.significand bits) (Pattern.exponentField bits - 1) := by
    refine (if_neg bounded).trans ?_
    by_cases lowest : Pattern.exponentField bits = 0
    · rw [Pattern.significand, if_pos lowest, lowest]
      exact if_pos lowest
    · rw [Pattern.significand, if_neg lowest]
      exact if_neg lowest
  have canonical : Canonical (Pattern.significand bits) (Pattern.exponentField bits - 1) := by
    by_cases lowest : Pattern.exponentField bits = 0
    · rw [Pattern.significand, if_pos lowest, lowest]
      exact ⟨by omega, Nat.zero_le 2045, Or.inl rfl⟩
    · rw [Pattern.significand, if_neg lowest]
      exact ⟨by omega, by omega, Or.inr (Nat.le_add_right _ _)⟩
  rw [placed, place, dif_pos canonical]
  exact ⟨_, rfl, rfl, rfl, rfl⟩

/-- The patterns of a NaN are those that denote no number. -/
theorem ofBits_eq_nan_iff (bits : UInt64) : ofBits bits = .nan ↔ Pattern.IsNan bits := by
  by_cases special : Pattern.exponentField bits = 2047
  · have known : ofBits bits =
        if Pattern.fractionField bits = 0 then .infinite (decide (Nat.pow 2 63 ≤ bits.toNat))
        else .nan := if_pos special
    simp [known, Pattern.IsNan, special]
  · rcases exists_ofBits_eq_finite special with ⟨number, known, -⟩
    simp [known, Pattern.IsNan, special]

/-- The sign, the exponent and the fraction make up a bit pattern. -/
theorem fields_eq_toNat (bits : UInt64) :
    (if decide (Nat.pow 2 63 ≤ bits.toNat) = true then Nat.pow 2 63 else 0) +
      (Pattern.exponentField bits * Nat.pow 2 52 + Pattern.fractionField bits) = bits.toNat := by
  have bound : bits.toNat < 2 ^ 64 := bits.toNat_lt
  simp only [Pattern.exponentField, Pattern.fractionField, Nat.pow_eq, decide_eq_true_eq]
  split <;> omega

/-- A bit pattern that is no NaN is found again in its number. -/
theorem toBits_ofBits {bits : UInt64} (number : ofBits bits ≠ .nan) :
    (ofBits bits).toBits = bits := by
  have whole (pattern : Nat) (same : pattern = bits.toNat) : UInt64.ofNat pattern = bits := by
    rw [same, UInt64.ofNat_toNat]
  have fields := fields_eq_toNat bits
  by_cases special : Pattern.exponentField bits = 2047
  · have empty : Pattern.fractionField bits = 0 :=
      Decidable.byContradiction fun full => number ((ofBits_eq_nan_iff bits).mpr ⟨special, full⟩)
    have known : ofBits bits = .infinite (decide (Nat.pow 2 63 ≤ bits.toNat)) :=
      (if_pos special).trans (if_pos empty)
    rw [known]
    apply whole
    refine Eq.trans ?_ fields
    rw [special, empty, Nat.add_zero]
  · rcases exists_ofBits_eq_finite special with ⟨x, known, sign, mantissa, scale⟩
    have short : Pattern.fractionField bits < Nat.pow 2 52 := Nat.mod_lt _ (Nat.two_pow_pos 52)
    rw [known]
    apply whole
    refine Eq.trans ?_ fields
    rw [sign, mantissa, scale, Pattern.significand]
    by_cases lowest : Pattern.exponentField bits = 0
    · rw [if_pos lowest, if_pos short, lowest, Nat.zero_mul, Nat.zero_add]
    · have full : ¬ Nat.pow 2 52 + Pattern.fractionField bits < Nat.pow 2 52 :=
        Nat.not_lt_of_le (Nat.le_add_right _ _)
      have above : Pattern.exponentField bits - 1 + 1 = Pattern.exponentField bits := by omega
      rw [if_neg lowest, if_neg full, above, Nat.add_sub_cancel_left]

end Binary64
end FrameMachine
