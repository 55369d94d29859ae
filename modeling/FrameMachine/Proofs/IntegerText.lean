import FrameMachine.Proofs.Digits
import Mathlib.Data.List.Forall2
import Mathlib.Data.Nat.Digits.Defs

namespace FrameMachine
namespace Numeral

/-!
# Integers and their texts

Which texts are integer numerals is said here by a grammar: blanks, one optional sign, and
digits that are decimal or stand behind the mark of another base.  The reader accepts exactly
the texts of the grammar whose value has 64 bits.  The two have to agree on what the reader
decides by looking ahead.  A mark is never taken for a digit, a sign never for the start of the
digits, and no character of a numeral is a blank, so each text can be taken apart in one way
only.
-/

/-! ## Digits -/

/-- The character is a digit of the base, in either case where it is a letter. -/
def IsDigit (base : Nat) (c : Char) (value : Nat) : Prop :=
  value < base ∧ (c = Nat.digitChar value ∨ c = (Nat.digitChar value).toUpper)

/-- The text is one or more digits of the base, and the number is their value. -/
def IsNatural (base : Nat) (text : List Char) (n : Nat) : Prop :=
  ∃ values, text ≠ [] ∧ List.Forall₂ (IsDigit base) text values ∧
    n = Nat.ofDigits base values.reverse

section Digits

variable {base : Nat} {c : Char} {value : Nat} {text : List Char} {values : List Nat}

/-- A character with the value of a digit is that digit. -/
theorem digitChar_of_digitValue (read : digitValue c = some value) :
    value < 16 ∧ (c = Nat.digitChar value ∨ c = (Nat.digitChar value).toUpper) := by
  have table : ∀ code < 103, ∀ value ∈ digitValue (Char.ofNat code), value < 16 ∧
      (Char.ofNat code = Nat.digitChar value ∨
        Char.ofNat code = (Nat.digitChar value).toUpper) := by
    decide +kernel
  have code : c.toNat < 103 := by
    have codes := code_of_digitValue read
    omega
  rw [← c.ofNat_toNat] at read ⊢
  exact table c.toNat code value read

theorem digit?_eq_some_iff (bound : base ≤ 16) :
    digit? base c = some value ↔ IsDigit base c value := by
  constructor
  · intro read
    rcases digit?_eq_some read with ⟨known, small⟩
    exact ⟨small, (digitChar_of_digitValue known).2⟩
  · rintro ⟨small, lower | upper⟩
    · rw [lower, digit?_digitChar small bound]
    · have known : ∀ value < 16, digitValue (Nat.digitChar value).toUpper = some value := by decide
      rw [upper, digit?, known value (Nat.lt_of_lt_of_le small bound)]
      exact if_pos small

theorem digits?_eq_some_iff (bound : base ≤ 16) :
    digits? base text = some values ↔ List.Forall₂ (IsDigit base) text values := by
  induction text generalizing values with
  | nil =>
      rw [digits?, Option.some.injEq, List.forall₂_nil_left_iff]
      exact eq_comm
  | cons c rest inductionHypothesis =>
      constructor
      · intro read
        rcases digits?_cons_eq_some read with ⟨value, others, first, behind, rfl⟩
        exact .cons ((digit?_eq_some_iff bound).mp first) (inductionHypothesis.mp behind)
      · intro written
        cases written with
        | cons first behind =>
            rw [digits?, (digit?_eq_some_iff bound).mpr first, inductionHypothesis.mpr behind]

/-- Reading most significant digit first gives the value that the digits have in the base. -/
theorem ofDigits_eq (base : Nat) (values : List Nat) :
    ofDigits base values = Nat.ofDigits base values.reverse := by
  induction values using List.reverseRecOn with
  | nil => rfl
  | append_singleton values last inductionHypothesis =>
      rw [ofDigits_concat, inductionHypothesis, List.reverse_concat, Nat.ofDigits_cons]
      ring

theorem ofDigits_append (base : Nat) (front behind : List Nat) :
    ofDigits base (front ++ behind) =
      ofDigits base front * base ^ behind.length + ofDigits base behind := by
  rw [ofDigits_eq, ofDigits_eq, ofDigits_eq, List.reverse_append, Nat.ofDigits_append,
    List.length_reverse]
  ring

theorem ofDigits_eq_zero_iff (positive : 0 < base) :
    ofDigits base values = 0 ↔ ∀ value ∈ values, value = 0 := by
  induction values using List.reverseRecOn with
  | nil => simp [ofDigits]
  | append_singleton values last inductionHypothesis =>
      rw [ofDigits_concat, Nat.add_eq_zero_iff, Nat.mul_eq_zero, or_iff_left positive.ne',
        inductionHypothesis, List.forall_mem_append, List.forall_mem_singleton]

theorem ofDigits_lt_pow (low : 1 < base) (small : ∀ value ∈ values, value < base) :
    ofDigits base values < base ^ values.length := by
  rw [ofDigits_eq, ← List.length_reverse]
  exact Nat.ofDigits_lt_base_pow_length low
    fun value member => small value (List.mem_reverse.mp member)

theorem natural?_eq_some_iff (bound : base ≤ 16) {n : Nat} :
    natural? base text = some n ↔ IsNatural base text n := by
  constructor
  · intro read
    rw [natural?] at read
    split at read
    · cases read
    · rename_i nonempty
      rcases Option.map_eq_some_iff.mp read with ⟨values, digits, rfl⟩
      exact ⟨values, by simpa using nonempty, (digits?_eq_some_iff bound).mp digits,
        ofDigits_eq base values⟩
  · rintro ⟨values, nonempty, written, rfl⟩
    rw [natural?_of_digits? nonempty ((digits?_eq_some_iff bound).mpr written), ofDigits_eq]

end Digits

/-! ## Magnitudes -/

/-- The mark that stands between a zero and the digits of a base. -/
inductive IsMark : (base : Nat) → (mark : Char) → Prop
  | hexadecimal : IsMark 16 'x'
  | upperHexadecimal : IsMark 16 'X'
  | octal : IsMark 8 'o'
  | upperOctal : IsMark 8 'O'

/-- The text is a numeral without its sign, and the number is its value. -/
inductive IsMagnitude : (text : List Char) → (n : Nat) → Prop
  | decimal {digits : List Char} {n : Nat} (written : IsNatural 10 digits n) :
      IsMagnitude digits n
  | marked {base : Nat} {mark : Char} {plus digits : List Char} {n : Nat}
      (known : IsMark base mark) (optional : plus = [] ∨ plus = ['+'])
      (written : IsNatural base digits n) : IsMagnitude ('0' :: mark :: (plus ++ digits)) n

section Magnitudes

variable {base : Nat} {mark : Char} {text : List Char} {n : Nat}

theorem IsMark.base_le (known : IsMark base mark) : base ≤ 16 := by
  cases known <;> decide

/-- Every character of a natural number is a digit. -/
theorem IsNatural.exists_digits? (bound : base ≤ 16) (written : IsNatural base text n) :
    ∃ values, digits? base text = some values := by
  rcases written with ⟨values, -, digits, -⟩
  exact ⟨values, (digits?_eq_some_iff bound).mpr digits⟩

theorem IsNatural.ne_cons (bound : base ≤ 16) (written : IsNatural base text n)
    (noDigit : digitValue mark = none) (rest : List Char) : text ≠ mark :: rest := by
  intro same
  rcases written.exists_digits? bound with ⟨values, read⟩
  exact not_mem_of_digits? read mark noDigit (same ▸ List.mem_cons_self)

theorem plusNatural?_eq_some_iff (bound : base ≤ 16) :
    plusNatural? base text = some n ↔ ∃ plus digits, text = plus ++ digits ∧
      (plus = [] ∨ plus = ['+']) ∧ IsNatural base digits n := by
  constructor
  · intro read
    unfold plusNatural? at read
    split at read
    · exact ⟨['+'], _, rfl, Or.inr rfl, (natural?_eq_some_iff bound).mp read⟩
    · exact ⟨[], text, rfl, Or.inl rfl, (natural?_eq_some_iff bound).mp read⟩
  · rintro ⟨plus, digits, rfl, rfl | rfl, written⟩
    · have unsigned := written.ne_cons bound (by decide : digitValue '+' = none)
      rw [List.nil_append, plusNatural?]
      · exact (natural?_eq_some_iff bound).mpr written
      · exact unsigned
    · exact (natural?_eq_some_iff bound).mpr written

/-- Behind a mark stands a natural number of the base, in front of it an optional plus. -/
theorem magnitude?_marked (known : IsMark base mark) (digits : List Char) :
    magnitude? ('0' :: mark :: digits) = plusNatural? base digits := by
  cases known <;> rfl

theorem magnitude?_eq_some_iff : magnitude? text = some n ↔ IsMagnitude text n := by
  constructor
  · intro read
    have behind {base : Nat} {mark : Char} (known : IsMark base mark) (digits : List Char)
        (read : plusNatural? base digits = some n) : IsMagnitude ('0' :: mark :: digits) n := by
      rcases (plusNatural?_eq_some_iff known.base_le).mp read with
        ⟨plus, digits, rfl, optional, written⟩
      exact .marked known optional written
    unfold magnitude? at read
    split at read
    · exact behind .hexadecimal _ read
    · exact behind .upperHexadecimal _ read
    · exact behind .octal _ read
    · exact behind .upperOctal _ read
    · exact .decimal ((natural?_eq_some_iff (by decide)).mp read)
  · intro written
    cases written with
    | decimal written => exact magnitude?_of_natural? ((natural?_eq_some_iff (by decide)).mpr written)
    | marked known optional written =>
        rw [magnitude?_marked known]
        exact (plusNatural?_eq_some_iff known.base_le).mpr ⟨_, _, rfl, optional, written⟩

end Magnitudes

/-! ## Integers -/

/-- The text of a sign, which may be missing.  The flag tells a minus. -/
inductive IsSign : (text : List Char) → (negative : Bool) → Prop
  | none : IsSign [] false
  | plus : IsSign ['+'] false
  | minus : IsSign ['-'] true

/-- The text is an integer numeral between blanks, and the integer is its value. -/
inductive IsInteger : (text : List Char) → (n : Int) → Prop
  | numeral {before sign body after : List Char} {negative : Bool} {magnitude : Nat}
      (blankBefore : ∀ c ∈ before, Text.isBlank c = true) (known : IsSign sign negative)
      (written : IsMagnitude body magnitude) (blankAfter : ∀ c ∈ after, Text.isBlank c = true) :
      IsInteger (before ++ (sign ++ body) ++ after)
        (if negative then -(magnitude : Int) else magnitude)

/-- The integer denoted by a numeral, of whatever size. -/
def denoted? (text : List Char) : Option Int :=
  (magnitude? (splitSign (Text.trim text)).2).map (signed (splitSign (Text.trim text)).1)

section Integers

variable {text body sign : List Char} {negative : Bool} {magnitude : Nat}

theorem integer?_eq_bind (text : String) : integer? text = (denoted? text.toList).bind int64? := by
  simp only [integer?, denoted?]
  cases magnitude? (splitSign (Text.trim text.toList)).2 <;> rfl

/-- What is split off a text is a sign. -/
theorem exists_isSign (text : List Char) :
    ∃ sign, IsSign sign (splitSign text).1 ∧ text = sign ++ (splitSign text).2 := by
  unfold splitSign
  split
  · exact ⟨['-'], .minus, rfl⟩
  · exact ⟨['+'], .plus, rfl⟩
  · exact ⟨[], .none, rfl⟩

theorem IsSign.isBlank (known : IsSign sign negative) : ∀ c ∈ sign, Text.isBlank c = false := by
  intro c member
  cases known with
  | none => cases member
  | plus =>
      rw [List.mem_singleton.mp member]
      decide
  | minus =>
      rw [List.mem_singleton.mp member]
      decide

theorem IsMagnitude.isBlank (written : IsMagnitude body magnitude) :
    ∀ c ∈ body, Text.isBlank c = false := by
  cases written with
  | decimal written =>
      rcases written.exists_digits? (by decide) with ⟨values, read⟩
      exact isBlank_of_digits? read
  | marked known optional written =>
      rcases written.exists_digits? known.base_le with ⟨values, read⟩
      intro c member
      simp only [List.mem_cons, List.mem_append] at member
      rcases member with zero | mark | plus | behind
      · rw [zero]
        decide
      · rw [mark]
        cases known <;> decide
      · rcases optional with rfl | rfl
        · cases plus
        · exact IsSign.plus.isBlank c plus
      · exact isBlank_of_digits? read c behind

/-- The sign is told from the magnitude behind it. -/
theorem IsSign.splitSign_append (known : IsSign sign negative)
    (written : IsMagnitude body magnitude) : splitSign (sign ++ body) = (negative, body) := by
  cases known with
  | none =>
      cases written with
      | decimal written =>
          rcases written.exists_digits? (by decide) with ⟨values, read⟩
          exact splitSign_of_digits? read
      | marked known optional written => rfl
  | plus => rfl
  | minus => rfl

/-- A text denotes what the grammar says. -/
theorem denoted?_eq_some_iff {n : Int} : denoted? text = some n ↔ IsInteger text n := by
  constructor
  · intro read
    rcases Option.map_eq_some_iff.mp read with ⟨magnitude, found, rfl⟩
    rcases Text.exists_trim text with ⟨before, after, blankBefore, blankAfter, parts⟩
    rcases exists_isSign (Text.trim text) with ⟨sign, known, trimmed⟩
    have numeral := IsInteger.numeral blankBefore known (magnitude?_eq_some_iff.mp found) blankAfter
    rw [← trimmed, ← parts] at numeral
    exact numeral
  · intro numeral
    cases numeral with
    | @numeral before sign body after negative magnitude blankBefore known written blankAfter =>
        have clear : ∀ c ∈ sign ++ body, Text.isBlank c = false := by
          intro c member
          rcases List.mem_append.mp member with front | behind
          · exact known.isBlank c front
          · exact written.isBlank c behind
        rw [denoted?, Text.trim_of_clear blankBefore blankAfter clear,
          known.splitSign_append written, magnitude?_eq_some_iff.mpr written]
        rfl

/-- A text denotes one integer. -/
theorem IsInteger.unique {first second : Int} (isFirst : IsInteger text first)
    (isSecond : IsInteger text second) : first = second := by
  have found := denoted?_eq_some_iff.mpr isFirst
  rw [denoted?_eq_some_iff.mpr isSecond] at found
  exact (Option.some.inj found).symm

theorem integer?_eq_some_iff {text : String} {n : Int64} :
    integer? text = some n ↔ IsInteger text.toList n.toInt := by
  rw [integer?_eq_bind, Option.bind_eq_some_iff]
  constructor
  · rintro ⟨m, found, fits⟩
    rw [← int64?_eq_some_iff.mp fits]
    exact denoted?_eq_some_iff.mp found
  · intro numeral
    exact ⟨n.toInt, denoted?_eq_some_iff.mpr numeral, int64?_toInt n⟩

/-- A text is refused if it is no numeral or its value is out of range. -/
theorem integer?_eq_none_iff {text : String} :
    integer? text = none ↔ ∀ m : Int, IsInteger text.toList m → ¬ FitsWord m := by
  rw [integer?_eq_bind, Option.bind_eq_none_iff]
  constructor
  · intro refused m numeral
    exact int64?_eq_none_iff.mp (refused m (denoted?_eq_some_iff.mpr numeral))
  · intro outside m found
    exact int64?_eq_none_iff.mpr (outside m (denoted?_eq_some_iff.mp found))

/-- The text of a magnitude behind the mark of a base. -/
theorem isMagnitude_toDigits {base : Nat} {mark : Char} (known : IsMark base mark) (n : Nat) :
    IsMagnitude ('0' :: mark :: Nat.toDigits base n) n := by
  have low : 1 < base := by
    cases known <;> decide
  have read := natural?_toDigits low known.base_le n
  exact .marked known (Or.inl rfl) ((natural?_eq_some_iff known.base_le).mp read)

theorem isSign_sign (negative : Bool) : IsSign (Numeral.sign negative) negative := by
  cases negative with
  | false => exact .none
  | true => exact .minus

/-- An integer is read from its sign and any text of its magnitude. -/
theorem integer?_of_isMagnitude {n : Int64} (written : IsMagnitude body n.toInt.natAbs) :
    integer? (String.ofList (Numeral.sign (decide (n.toInt < 0)) ++ body)) = some n := by
  have none : ∀ c ∈ ([] : List Char), Text.isBlank c = true := fun _ member => nomatch member
  have numeral := IsInteger.numeral none (isSign_sign (decide (n.toInt < 0))) written none
  have value : (if decide (n.toInt < 0) = true then -(n.toInt.natAbs : Int)
      else n.toInt.natAbs) = n.toInt := signed_natAbs n.toInt
  rw [List.nil_append, List.append_nil, value] at numeral
  rw [integer?_eq_some_iff, String.toList_ofList]
  exact numeral

end Integers

/-- The reader accepts exactly the integer numerals whose value has 64 bits, and a numeral has
one value.  In particular an integer is read from its decimal numeral, and from its sign and the
digits of its magnitude behind the mark of a base. -/
theorem integer?_accepts_grammar :
    (∀ (text : String) (n : Int64), integer? text = some n ↔ IsInteger text.toList n.toInt) ∧
    (∀ text : String, integer? text = none ↔
      ∀ m : Int, IsInteger text.toList m → ¬ FitsWord m) ∧
    (∀ (text : List Char) (first second : Int),
      IsInteger text first → IsInteger text second → first = second) ∧
    ∀ n : Int64, integer? (decimal n.toInt) = some n ∧
      ∀ base mark, IsMark base mark →
        integer? (String.ofList (sign (decide (n.toInt < 0)) ++
          '0' :: mark :: Nat.toDigits base n.toInt.natAbs)) = some n := by
  refine ⟨fun _ _ => integer?_eq_some_iff, fun _ => integer?_eq_none_iff, ?_, ?_⟩
  · intro text first second isFirst isSecond
    exact isFirst.unique isSecond
  · intro n
    refine ⟨integer?_decimal n, ?_⟩
    intro base mark known
    exact integer?_of_isMagnitude (isMagnitude_toDigits known n.toInt.natAbs)

/-- The least integer in octal digits behind a blank, a numeral just out of range, a mark without
digits, and the text of an integer in base sixteen. -/
theorem integer?_accepts_grammar_at_ends :
    IsInteger "\u3000-0O+1000000000000000000000".toList Int64.minValue.toInt ∧
    (∀ m, IsInteger "9223372036854775808".toList m → ¬ FitsWord m) ∧
    (∀ m, IsInteger "0x".toList m → ¬ FitsWord m) ∧
    (∀ m, IsInteger "-0".toList m → m = 0) ∧
    integer? (String.ofList (sign true ++ '0' :: 'X' :: Nat.toDigits 16 (Nat.pow 2 63))) =
      some Int64.minValue := by
  rcases integer?_accepts_grammar with ⟨accepts, refuses, unique, reads⟩
  have zero : IsInteger "-0".toList 0 := (accepts "-0" 0).mp (by decide +kernel)
  refine ⟨?_, ?_, ?_, ?_, ?_⟩
  · exact (accepts _ Int64.minValue).mp (by decide +kernel)
  · exact (refuses "9223372036854775808").mp (by decide +kernel)
  · exact (refuses "0x").mp (by decide +kernel)
  · exact fun m numeral => unique _ m 0 numeral zero
  · exact (reads Int64.minValue).2 16 'X' .upperHexadecimal

end Numeral
end FrameMachine
