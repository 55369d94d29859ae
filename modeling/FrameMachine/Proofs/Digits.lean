import FrameMachine.Proofs.Spelling
import Mathlib.Algebra.Group.Int.Defs
import Mathlib.Data.List.Induction

namespace FrameMachine

/-!
# Digits that are written and read

A number is written most significant digit first and read in the same order, so that each
side is the other one undone: what was written for all digits but the last is the quotient by
the base, and the last digit is the remainder.  The characters of a numeral are neither blanks
nor marks, so that a reader which trims or divides a text leaves a numeral whole.
-/

namespace Text

/-- A text without blanks is left as it is. -/
theorem trim_eq_self {text : List Char} (clear : ∀ c ∈ text, isBlank c = false) :
    trim text = text := by
  have trimmed : trim ([] ++ text ++ []) = text :=
    trim_of_clear (fun _ member => nomatch member) (fun _ member => nomatch member) clear
  rwa [List.nil_append, List.append_nil] at trimmed

end Text

namespace Numeral

variable {base : Nat} {text : List Char} {values : List Nat}

/-! ## Characters -/

/-- A digit is a figure or one of the first six letters. -/
theorem code_of_digitValue {c : Char} {value : Nat} (read : digitValue c = some value) :
    48 ≤ c.toNat ∧ c.toNat ≤ 57 ∨ 97 ≤ c.toNat ∧ c.toNat ≤ 102 ∨
      65 ≤ c.toNat ∧ c.toNat ≤ 70 := by
  have ordered (first last : Char) :
      (decide (first ≤ c) && decide (c ≤ last)) = true ↔
        first.toNat ≤ c.toNat ∧ c.toNat ≤ last.toNat := by
    simp only [Bool.and_eq_true, decide_eq_true_eq]
    exact Iff.rfl
  unfold digitValue at read
  split at read
  · rename_i figure
    exact Or.inl ((ordered '0' '9').mp figure)
  · split at read
    · rename_i lower
      exact Or.inr (Or.inl ((ordered 'a' 'f').mp lower))
    · split at read
      · rename_i upper
        exact Or.inr (Or.inr ((ordered 'A' 'F').mp upper))
      · cases read

theorem digit?_eq_some {c : Char} {value : Nat} (read : digit? base c = some value) :
    digitValue c = some value ∧ value < base := by
  unfold digit? at read
  split at read
  · rename_i found known
    split at read
    · rename_i small
      cases read
      exact ⟨known, small⟩
    · cases read
  · cases read

theorem digits?_cons_eq_some {c : Char} (read : digits? base (c :: text) = some values) :
    ∃ value others, digit? base c = some value ∧ digits? base text = some others ∧
      values = value :: others := by
  rw [digits?] at read
  split at read
  · rename_i value others first rest
    exact ⟨value, others, first, rest, (Option.some.inj read).symm⟩
  · cases read

/-- Every character of a numeral is a digit. -/
theorem digitValue_of_digits? (read : digits? base text = some values) :
    ∀ c ∈ text, ∃ value, digitValue c = some value := by
  induction text generalizing values with
  | nil => exact fun _ member => nomatch member
  | cons first rest inductionHypothesis =>
      rcases digits?_cons_eq_some read with ⟨value, others, head, tail, -⟩
      intro c member
      rcases List.mem_cons.mp member with same | later
      · rw [same]
        exact ⟨value, (digit?_eq_some head).1⟩
      · exact inductionHypothesis tail c later

theorem isBlank_of_digits? (read : digits? base text = some values) :
    ∀ c ∈ text, Text.isBlank c = false := by
  intro c member
  rcases digitValue_of_digits? read c member with ⟨value, known⟩
  have code := code_of_digitValue known
  apply Bool.eq_false_iff.mpr
  intro blank
  simp only [Text.isBlank, Bool.or_eq_true, Bool.and_eq_true, decide_eq_true_eq,
    beq_iff_eq] at blank
  omega

/-- A character that is no digit does not stand in a numeral. -/
theorem not_mem_of_digits? (read : digits? base text = some values) (mark : Char)
    (noDigit : digitValue mark = none) : mark ∉ text := by
  intro member
  rcases digitValue_of_digits? read mark member with ⟨value, known⟩
  rw [noDigit] at known
  cases known

theorem lt_of_digits? (read : digits? base text = some values) :
    ∀ value ∈ values, value < base := by
  induction text generalizing values with
  | nil =>
      cases read
      exact fun _ member => nomatch member
  | cons first rest inductionHypothesis =>
      rcases digits?_cons_eq_some read with ⟨found, others, head, tail, rfl⟩
      intro value member
      rcases List.mem_cons.mp member with same | later
      · rw [same]
        exact (digit?_eq_some head).2
      · exact inductionHypothesis tail value later

/-! ## Digits one behind the other -/

theorem digits?_append {first second : List Char} {high low : List Nat}
    (readFirst : digits? base first = some high) (readSecond : digits? base second = some low) :
    digits? base (first ++ second) = some (high ++ low) := by
  induction first generalizing high with
  | nil =>
      cases readFirst
      exact readSecond
  | cons c rest inductionHypothesis =>
      rcases digits?_cons_eq_some readFirst with ⟨value, others, head, tail, rfl⟩
      rw [List.cons_append, digits?, head, inductionHypothesis tail]
      rfl

theorem ofDigits_concat (base : Nat) (values : List Nat) (value : Nat) :
    ofDigits base (values ++ [value]) = ofDigits base values * base + value := by
  rw [ofDigits, List.foldl_append]
  rfl

theorem ofDigits_cons (base value : Nat) (values : List Nat) :
    ofDigits base (value :: values) =
      value * Nat.pow base values.length + ofDigits base values := by
  induction values using List.reverseRecOn with
  | nil => simp [ofDigits]
  | append_singleton values last inductionHypothesis =>
      have next : Nat.pow base (values.length + 1) = Nat.pow base values.length * base := rfl
      rw [← List.cons_append, ofDigits_concat, ofDigits_concat, inductionHypothesis,
        List.length_append, List.length_singleton, next, Nat.add_mul, Nat.mul_assoc, Nat.add_assoc]

/-- The character of a digit is read as that digit. -/
theorem digit?_digitChar {value : Nat} (small : value < base) (bound : base ≤ 16) :
    digit? base (Nat.digitChar value) = some value := by
  have known : ∀ value < 16, digitValue (Nat.digitChar value) = some value := by decide
  rw [digit?, known value (Nat.lt_of_lt_of_le small bound)]
  exact if_pos small

theorem digits?_digitChar {value : Nat} (small : value < base) (bound : base ≤ 16) :
    digits? base [Nat.digitChar value] = some [value] := by
  rw [digits?, digit?_digitChar small bound]
  rfl

/-- The digits of a number denote it. -/
theorem exists_digits?_toDigits (low : 1 < base) (bound : base ≤ 16) (n : Nat) :
    ∃ values, digits? base (Nat.toDigits base n) = some values ∧ ofDigits base values = n := by
  induction n using Nat.strongRecOn with
  | ind n inductionHypothesis =>
      rcases Nat.lt_or_ge n base with small | large
      · rw [Nat.toDigits_of_lt_base small]
        exact ⟨[n], digits?_digitChar small bound, by simp [ofDigits]⟩
      · have positive : 0 < base := Nat.zero_lt_of_lt low
        have smaller : n / base < n := Nat.div_lt_self (Nat.lt_of_lt_of_le positive large) low
        rcases inductionHypothesis (n / base) smaller with ⟨values, read, total⟩
        rw [Nat.toDigits_of_base_le low large]
        refine ⟨values ++ [n % base], ?_, ?_⟩
        · exact digits?_append read (digits?_digitChar (Nat.mod_lt n positive) bound)
        · rw [ofDigits_concat, total]
          exact Nat.div_add_mod' n base

theorem natural?_of_digits? (nonempty : text ≠ []) (read : digits? base text = some values) :
    natural? base text = some (ofDigits base values) := by
  rw [natural?, if_neg (by simpa using nonempty), read]
  rfl

theorem natural?_toDigits (low : 1 < base) (bound : base ≤ 16) (n : Nat) :
    natural? base (Nat.toDigits base n) = some n := by
  rcases exists_digits?_toDigits low bound n with ⟨values, read, total⟩
  rw [natural?_of_digits? Nat.toDigits_ne_nil read, total]

/-! ## Signs -/

/-- The characters of a sign. -/
def sign (negative : Bool) : List Char :=
  if negative then ['-'] else []

theorem isBlank_of_mem_sign {negative : Bool} : ∀ c ∈ sign negative, Text.isBlank c = false := by
  intro c member
  cases negative with
  | false => cases member
  | true =>
      rw [List.mem_singleton.mp member]
      decide

/-- A numeral without blanks in it is taken apart into its sign and the rest. -/
theorem splitSign_trim {body : List Char} {negative : Bool} (spelled : text = sign negative ++ body)
    (clear : ∀ c ∈ body, Text.isBlank c = false) (unsigned : splitSign body = (false, body)) :
    splitSign (Text.trim text) = (negative, body) := by
  have whole : ∀ c ∈ text, Text.isBlank c = false := by
    rw [spelled]
    intro c member
    rcases List.mem_append.mp member with front | behind
    · exact isBlank_of_mem_sign c front
    · exact clear c behind
  rw [Text.trim_eq_self whole, spelled]
  cases negative with
  | false => exact unsigned
  | true => rfl

theorem splitSign_of_digits? (read : digits? base text = some values) :
    splitSign text = (false, text) := by
  have minus := not_mem_of_digits? read '-' (by decide)
  have plus := not_mem_of_digits? read '+' (by decide)
  unfold splitSign
  split
  · exact absurd List.mem_cons_self minus
  · exact absurd List.mem_cons_self plus
  · rfl

theorem signed_natAbs (n : Int) : signed (decide (n < 0)) n.natAbs = n := by
  unfold signed
  split <;> rename_i negative <;> simp only [decide_eq_true_eq] at negative <;> omega

/-! ## Integers -/

/-- A decimal number is never taken for one behind the mark of another base. -/
theorem magnitude?_of_natural? {n : Nat} (read : natural? 10 text = some n) :
    magnitude? text = some n := by
  have written : ∃ values, digits? 10 text = some values := by
    rw [natural?] at read
    split at read
    · cases read
    · rcases Option.map_eq_some_iff.mp read with ⟨values, digits, -⟩
      exact ⟨values, digits⟩
  rcases written with ⟨values, digits⟩
  have absent := not_mem_of_digits? digits
  unfold magnitude?
  split
  · exact absurd (by simp) (absent 'x' (by decide))
  · exact absurd (by simp) (absent 'X' (by decide))
  · exact absurd (by simp) (absent 'o' (by decide))
  · exact absurd (by simp) (absent 'O' (by decide))
  · exact read

theorem magnitude?_toDigits (n : Nat) : magnitude? (Nat.toDigits 10 n) = some n :=
  magnitude?_of_natural? (natural?_toDigits (by decide) (by decide) n)

theorem decimal_toList (n : Int) :
    (decimal n).toList = sign (decide (n < 0)) ++ Nat.toDigits 10 n.natAbs := by
  cases n with
  | ofNat m => simp [decimal, sign, toString, Int.repr]
  | negSucc m => simp [decimal, sign, toString, Int.repr]

theorem isBlank_of_mem_toDigits (n : Nat) : ∀ c ∈ Nat.toDigits 10 n, Text.isBlank c = false := by
  rcases exists_digits?_toDigits (by decide : 1 < 10) (by decide) n with ⟨values, read, -⟩
  exact isBlank_of_digits? read

theorem splitSign_toDigits (n : Nat) :
    splitSign (Nat.toDigits 10 n) = (false, Nat.toDigits 10 n) := by
  rcases exists_digits?_toDigits (by decide : 1 < 10) (by decide) n with ⟨values, read, -⟩
  exact splitSign_of_digits? read

theorem int64?_toInt (n : Int64) : int64? n.toInt = some n := by
  rw [int64?, if_pos ⟨n.minValue_le_toInt, n.toInt_le⟩, Int64.ofInt_toInt]

theorem int64?_eq_some_iff {m : Int} {n : Int64} : int64? m = some n ↔ m = n.toInt := by
  constructor
  · intro read
    rw [int64?] at read
    split at read <;> cases read
    rename_i bounds
    rcases bounds with ⟨low, high⟩
    rw [Int64.toInt_minValue] at low
    rw [Int64.toInt_maxValue] at high
    rw [Int64.toInt_ofInt_of_le low (by omega)]
  · intro same
    rw [same, int64?_toInt]

/-- Whether the integer has 64 bits. -/
def FitsWord (n : Int) : Prop :=
  -2 ^ 63 ≤ n ∧ n ≤ 2 ^ 63 - 1

theorem fitsWord_iff {n : Int} :
    FitsWord n ↔ Int64.minValue.toInt ≤ n ∧ n ≤ Int64.maxValue.toInt := by
  rw [Int64.toInt_minValue, Int64.toInt_maxValue]
  exact Iff.rfl

theorem fitsWord_toInt (n : Int64) : FitsWord n.toInt :=
  fitsWord_iff.mpr ⟨n.minValue_le_toInt, n.toInt_le⟩

theorem int64?_of_fits {n : Int} (fits : FitsWord n) : int64? n = some (Int64.ofInt n) := by
  rw [int64?, if_pos (fitsWord_iff.mp fits)]

theorem int64?_eq_none_iff {n : Int} : int64? n = none ↔ ¬ FitsWord n := by
  constructor
  · intro refused fits
    rw [int64?_of_fits fits] at refused
    cases refused
  · intro outside
    rw [int64?, if_neg (mt fitsWord_iff.mpr outside)]

theorem toInt_ofInt_of_fits {n : Int} (fits : FitsWord n) : (Int64.ofInt n).toInt = n :=
  (int64?_eq_some_iff.mp (int64?_of_fits fits)).symm

/-- An integer is read from its own decimal numeral. -/
theorem integer?_decimal (n : Int64) : integer? (decimal n.toInt) = some n := by
  have divided := splitSign_trim (decimal_toList n.toInt) (isBlank_of_mem_toDigits n.toInt.natAbs)
    (splitSign_toDigits n.toInt.natAbs)
  rw [integer?, divided]
  simp only [magnitude?_toDigits, signed_natAbs, int64?_toInt]

end Numeral
end FrameMachine
