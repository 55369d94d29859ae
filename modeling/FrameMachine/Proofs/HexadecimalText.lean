import FrameMachine.Binary64.Hexadecimal
import FrameMachine.Proofs.IntegerText

namespace FrameMachine
namespace Binary64

/-!
# Hexadecimal numerals

A hexadecimal numeral of the floating-point numbers is digits with a point among them and an
exponent.  A grammar says which texts these are, and the reader gathers their digits in two
loops, one for each side of the point.  At every point of the loops the digits seen are those
taken into the mantissa, followed by those dropped.  The mantissa is the number that the digits
taken denote, marked by the others, and the exponent counts the digits dropped and those behind
the point.
-/

/-! ## Numerals -/

/-- The text is hexadecimal digits with at most one point.  One side of the point may be
empty. -/
inductive IsMantissa : (text : List Char) → (whole fraction : List Nat) → Prop
  | unpointed {front : List Char} {whole : List Nat} (nonempty : front ≠ [])
      (digits : List.Forall₂ (Numeral.IsDigit 16) front whole) : IsMantissa front whole []
  | pointed {front behind : List Char} {whole fraction : List Nat}
      (nonempty : front ≠ [] ∨ behind ≠ [])
      (digits : List.Forall₂ (Numeral.IsDigit 16) front whole)
      (digitsBehind : List.Forall₂ (Numeral.IsDigit 16) behind fraction) :
      IsMantissa (front ++ '.' :: behind) whole fraction

/-- The text is a hexadecimal numeral behind its `0x`: digits in front of the point, digits
behind it and an exponent, which is zero where none is written. -/
inductive IsHexadecimal :
    (text : List Char) → (whole fraction : List Nat) → (exponent : Int) → Prop
  | unscaled {text : List Char} {whole fraction : List Nat}
      (written : IsMantissa text whole fraction) : IsHexadecimal text whole fraction 0
  | scaled {text sign digits : List Char} {whole fraction : List Nat} {mark : Char}
      {negative : Bool} {magnitude : Nat} (written : IsMantissa text whole fraction)
      (marked : mark = 'p' ∨ mark = 'P') (known : Numeral.IsSign sign negative)
      (power : Numeral.IsNatural 10 digits magnitude) :
      IsHexadecimal (text ++ mark :: (sign ++ digits)) whole fraction
        (if negative then -(magnitude : Int) else magnitude)

/-! ## Telling the parts apart -/

section Parts

variable {text front : List Char} {whole fraction : List Nat} {exponent : Int}

theorem IsMantissa.not_mem (written : IsMantissa text whole fraction) {mark : Char}
    (noDigit : Numeral.digitValue mark = none) (noPoint : mark ≠ '.') : mark ∉ text := by
  have clear {digits : List Char} {values : List Nat}
      (isDigits : List.Forall₂ (Numeral.IsDigit 16) digits values) : mark ∉ digits :=
    Numeral.not_mem_of_digits? ((Numeral.digits?_eq_some_iff (by decide)).mpr isDigits) mark noDigit
  cases written with
  | unpointed nonempty digits => exact clear digits
  | pointed nonempty digits digitsBehind =>
      intro member
      rcases List.mem_append.mp member with inFront | point | ⟨_, behind⟩
      · exact clear digits inFront
      · exact noPoint rfl
      · exact clear digitsBehind behind

/-- The mantissa is divided at its point, and both sides are read. -/
theorem IsMantissa.exists_split (written : IsMantissa text whole fraction) :
    ∃ front point, Text.splitAtFirst (· == '.') text = (front, point) ∧
      (front.isEmpty && (point.getD []).isEmpty) = false ∧
      Numeral.digits? 16 front = some whole ∧
      Numeral.digits? 16 (point.getD []) = some fraction := by
  cases written with
  | unpointed nonempty digits =>
      have read := (Numeral.digits?_eq_some_iff (by decide)).mpr digits
      have absent := Numeral.not_mem_of_digits? read '.' (by decide)
      refine ⟨text, none, ?_, ?_, read, rfl⟩
      · apply Text.splitAtFirst_of_clear
        intro c member
        exact beq_eq_false_iff_ne.mpr fun same => absent (same ▸ member)
      · simpa using nonempty
  | @pointed front behind _ _ nonempty digits digitsBehind =>
      have read := (Numeral.digits?_eq_some_iff (by decide)).mpr digits
      have readBehind := (Numeral.digits?_eq_some_iff (by decide)).mpr digitsBehind
      have absent := Numeral.not_mem_of_digits? read '.' (by decide)
      refine ⟨front, some behind, Text.splitAtFirst_of_mark absent, ?_, read, readBehind⟩
      rcases nonempty with nonempty | nonempty <;> simp [nonempty]

/-- The digits are gathered once the exponent has been split off and read. -/
theorem IsMantissa.gather?_eq (written : IsMantissa front whole fraction)
    {tail : Option (List Char)}
    (divided : Text.splitAtFirst (fun c => c == 'p' || c == 'P') text = (front, tail))
    (power : tail.elim (some 0) exponent? = some exponent) :
    gather? text = some (Gathered.ofDigits whole fraction exponent) := by
  rcases written.exists_split with ⟨front, point, pointed, nonempty, read, readBehind⟩
  rw [gather?, divided]
  cases tail with
  | none =>
      cases power
      simp only [pointed, nonempty, read, readBehind, Bool.false_eq_true, if_false]
  | some digits =>
      rw [Option.elim_some] at power
      simp only [pointed, nonempty, read, readBehind, power, Bool.false_eq_true, if_false]

theorem exponent?_of_isSign {sign digits : List Char} {negative : Bool} {magnitude : Nat}
    (known : Numeral.IsSign sign negative) (power : Numeral.IsNatural 10 digits magnitude)
    (fits : Numeral.FitsWord (if negative then -(magnitude : Int) else magnitude)) :
    exponent? (sign ++ digits) = some (if negative then -(magnitude : Int) else magnitude) := by
  rw [exponent?, known.splitSign_append (.decimal power)]
  simp only [(Numeral.natural?_eq_some_iff (by decide)).mpr power, Numeral.signed]
  rw [Numeral.int64?_of_fits fits, Option.map_some, Numeral.toInt_ofInt_of_fits fits]

/-- Every hexadecimal numeral whose exponent has 64 bits is gathered. -/
theorem IsHexadecimal.gather?_eq (numeral : IsHexadecimal text whole fraction exponent)
    (fits : Numeral.FitsWord exponent) :
    gather? text = some (Gathered.ofDigits whole fraction exponent) := by
  have clear {front : List Char} (written : IsMantissa front whole fraction) :
      ∀ c ∈ front, (c == 'p' || c == 'P') = false := by
    intro c member
    apply Bool.eq_false_iff.mpr
    intro divides
    rw [Bool.or_eq_true, beq_iff_eq, beq_iff_eq] at divides
    rcases divides with same | same
    · exact written.not_mem (by decide) (by decide) (same ▸ member)
    · exact written.not_mem (by decide) (by decide) (same ▸ member)
  cases numeral with
  | unscaled written =>
      exact written.gather?_eq (Text.splitAtFirst_of_clear (clear written)) rfl
  | scaled written marked known power =>
      apply written.gather?_eq (Text.splitAtFirst_append (clear written) ?_)
      · exact exponent?_of_isSign known power fits
      · rcases marked with rfl | rfl <;> rfl

/-- The values of the digits are below sixteen. -/
theorem IsHexadecimal.lt (numeral : IsHexadecimal text whole fraction exponent) :
    (∀ digit ∈ whole, digit < 16) ∧ ∀ digit ∈ fraction, digit < 16 := by
  have written : ∃ front, IsMantissa front whole fraction := by
    cases numeral with
    | unscaled written => exact ⟨_, written⟩
    | scaled written _ _ _ => exact ⟨_, written⟩
  rcases written with ⟨front, written⟩
  rcases written.exists_split with ⟨_, _, _, _, read, readBehind⟩
  exact ⟨Numeral.lt_of_digits? read, Numeral.lt_of_digits? readBehind⟩

end Parts

/-! ## The loops -/

namespace Gathered

/-- A digit gathered like one in front of the point, with the exponent lowered afterwards. -/
def lowered (shift : Int) (gathered : Gathered) (digit : Nat) : Gathered :=
  ⟨(gathered.whole digit).mantissa, (gathered.whole digit).exponent - shift⟩

/-- The digits that find a full mantissa when a loop comes to them. -/
def leftOff (step : Gathered → Nat → Gathered) : Gathered → List Nat → List Nat
  | _, [] => []
  | gathered, digit :: digits =>
      if gathered.mantissa < limit then leftOff step (step gathered digit) digits
      else digit :: leftOff step (step gathered digit) digits

/-- The digits of a numeral that are dropped. -/
def dropped (wholeDigits fractionDigits : List Nat) (exponent : Int) : List Nat :=
  leftOff whole ⟨0, exponent⟩ wholeDigits ++
    leftOff fraction (ofDigits wholeDigits [] exponent) fractionDigits

theorem whole_eq_lowered : whole = lowered 0 := by
  funext gathered digit
  rw [lowered, Int.sub_zero]

theorem fraction_eq_lowered : fraction = lowered 4 := by
  funext gathered digit
  by_cases room : gathered.mantissa < limit
  · rw [fraction, lowered, whole, if_pos room, if_pos room]
  · rw [fraction, lowered, whole, if_neg room, if_neg room, Int.add_sub_cancel]

/-- The digits that are dropped are marked one by one, with the same effect as once. -/
theorem foldl_mark (mantissa : Nat) (dropped : List Nat) :
    dropped.foldl mark mantissa =
      if ∀ digit ∈ dropped, digit = 0 then mantissa else mantissa / 2 * 2 + 1 := by
  induction dropped generalizing mantissa with
  | nil => rfl
  | cons digit dropped inductionHypothesis =>
      rw [List.foldl_cons, inductionHypothesis, mark]
      by_cases zero : digit = 0
      · simp [zero]
      · have again : (mantissa / 2 * 2 + 1) / 2 * 2 + 1 = mantissa / 2 * 2 + 1 := by omega
        simp [zero, again]

/-- The mantissa is made of the digits taken and marked by those dropped.  None is dropped
before the mantissa is full. -/
structure IsMadeOf (taken dropped : List Nat) (gathered : Gathered) : Prop where
  digits : ∀ digit ∈ dropped, digit < 16
  small : Numeral.ofDigits 16 taken < 2 ^ 63
  full : dropped ≠ [] → limit ≤ Numeral.ofDigits 16 taken
  marked : gathered.mantissa = dropped.foldl mark (Numeral.ofDigits 16 taken)

section Loops

variable {taken dropped : List Nat} {gathered : Gathered}

/-- Marking never makes a mantissa smaller. -/
theorem IsMadeOf.le_mantissa (made : gathered.IsMadeOf taken dropped) :
    Numeral.ofDigits 16 taken ≤ gathered.mantissa := by
  rw [made.marked, foldl_mark]
  split <;> omega

/-- A mantissa that has room has not been marked yet. -/
theorem IsMadeOf.dropped_eq_nil (made : gathered.IsMadeOf taken dropped)
    (room : gathered.mantissa < limit) : dropped = [] := by
  apply Decidable.byContradiction
  intro some
  exact Nat.not_lt_of_le (Nat.le_trans (made.full some) made.le_mantissa) room

/-- A full mantissa is made of enough digits. -/
theorem IsMadeOf.limit_le (made : gathered.IsMadeOf taken dropped)
    (full : ¬ gathered.mantissa < limit) : limit ≤ Numeral.ofDigits 16 taken := by
  by_cases none : dropped = []
  · have marked := made.marked
    rw [none, List.foldl_nil] at marked
    omega
  · exact made.full none

theorem IsMadeOf.take (made : gathered.IsMadeOf taken []) (room : gathered.mantissa < limit)
    (shift : Int) {digit : Nat} (small : digit < 16) :
    (gathered.lowered shift digit).IsMadeOf (taken ++ [digit]) [] := by
  have marked : gathered.mantissa = Numeral.ofDigits 16 taken := made.marked
  have bound : limit * 16 = 2 ^ 63 := by decide
  refine ⟨List.forall_mem_nil _, ?_, fun some => absurd rfl some, ?_⟩
  · rw [Numeral.ofDigits_concat, ← marked]
    omega
  · rw [lowered, whole, if_pos room, marked, ← Numeral.ofDigits_concat]
    rfl

theorem IsMadeOf.drop (made : gathered.IsMadeOf taken dropped)
    (full : ¬ gathered.mantissa < limit) (shift : Int) {digit : Nat} (small : digit < 16) :
    (gathered.lowered shift digit).IsMadeOf taken (dropped ++ [digit]) := by
  refine ⟨?_, made.small, fun _ => made.limit_le full, ?_⟩
  · exact List.forall_mem_append.mpr ⟨made.digits, List.forall_mem_singleton.mpr small⟩
  · rw [lowered, whole, if_neg full, made.marked, List.foldl_append]
    rfl

/-- One pass of a loop takes the next digit or drops it. -/
theorem IsMadeOf.step (made : gathered.IsMadeOf taken dropped) (shift : Int) {digit : Nat}
    (small : digit < 16) :
    ∃ taken', taken' ++ (dropped ++ leftOff (lowered shift) gathered [digit]) =
        taken ++ dropped ++ [digit] ∧
      (gathered.lowered shift digit).IsMadeOf taken'
        (dropped ++ leftOff (lowered shift) gathered [digit]) := by
  by_cases room : gathered.mantissa < limit
  · have none := made.dropped_eq_nil room
    subst none
    rw [leftOff, if_pos room, leftOff]
    exact ⟨taken ++ [digit], by simp, made.take room shift small⟩
  · rw [leftOff, if_neg room, leftOff]
    exact ⟨taken, by simp, made.drop room shift small⟩

/-- A whole loop takes some digits and drops those behind them. -/
theorem IsMadeOf.foldl (made : gathered.IsMadeOf taken dropped) (shift : Int)
    {digits : List Nat} (small : ∀ digit ∈ digits, digit < 16) :
    ∃ taken', taken' ++ (dropped ++ leftOff (lowered shift) gathered digits) =
        taken ++ dropped ++ digits ∧
      (digits.foldl (lowered shift) gathered).IsMadeOf taken'
        (dropped ++ leftOff (lowered shift) gathered digits) := by
  induction digits generalizing taken dropped gathered with
  | nil =>
      refine ⟨taken, by simp [leftOff], ?_⟩
      rw [leftOff, List.append_nil]
      exact made
  | cons digit digits inductionHypothesis =>
      have first : leftOff (lowered shift) gathered (digit :: digits) =
          leftOff (lowered shift) gathered [digit] ++
            leftOff (lowered shift) (gathered.lowered shift digit) digits := by
        simp only [leftOff]
        split <;> rfl
      rcases made.step shift (small digit List.mem_cons_self) with ⟨next, seen, madeNext⟩
      rcases inductionHypothesis madeNext
        (fun other member => small other (List.mem_cons_of_mem digit member)) with
          ⟨last, seenLast, madeLast⟩
      rw [first, ← List.append_assoc]
      refine ⟨last, ?_, madeLast⟩
      rw [seenLast, seen, List.append_assoc, List.singleton_append]

theorem exponent_foldl (shift : Int) (gathered : Gathered) (digits : List Nat) :
    (digits.foldl (lowered shift) gathered).exponent =
      gathered.exponent + 4 * (leftOff (lowered shift) gathered digits).length -
        shift * digits.length := by
  induction digits generalizing gathered with
  | nil => simp [leftOff]
  | cons digit digits inductionHypothesis =>
      have once : (gathered.lowered shift digit).exponent =
          gathered.exponent + (if gathered.mantissa < limit then 0 else 4) - shift := by
        rw [lowered, whole]
        split <;> simp
      rw [List.foldl_cons, inductionHypothesis, once, leftOff]
      split <;> push_cast [List.length_cons, Int.mul_add] <;> omega

theorem IsMadeOf.mantissa_lt (made : gathered.IsMadeOf taken dropped) :
    gathered.mantissa < 2 ^ 63 := by
  have small := made.small
  rw [made.marked, foldl_mark]
  split <;> omega

end Loops

section Numerals

variable {wholeDigits fractionDigits : List Nat}

theorem exists_isMadeOf (small : ∀ digit ∈ wholeDigits, digit < 16)
    (smallBehind : ∀ digit ∈ fractionDigits, digit < 16) (exponent : Int) :
    ∃ taken, taken ++ dropped wholeDigits fractionDigits exponent =
        wholeDigits ++ fractionDigits ∧
      (ofDigits wholeDigits fractionDigits exponent).IsMadeOf taken
        (dropped wholeDigits fractionDigits exponent) := by
  have start : (⟨0, exponent⟩ : Gathered).IsMadeOf [] [] :=
    ⟨List.forall_mem_nil _, by decide, fun some => absurd rfl some, rfl⟩
  rcases start.foldl 0 small with ⟨taken, seen, made⟩
  rcases made.foldl 4 smallBehind with ⟨last, seenLast, madeLast⟩
  rw [← whole_eq_lowered, ← fraction_eq_lowered] at seenLast madeLast
  rw [← whole_eq_lowered] at seen
  rw [seen] at seenLast
  exact ⟨last, seenLast, madeLast⟩

theorem exponent_ofDigits (wholeDigits fractionDigits : List Nat) (exponent : Int) :
    (ofDigits wholeDigits fractionDigits exponent).exponent =
      exponent - 4 * fractionDigits.length +
        4 * (dropped wholeDigits fractionDigits exponent).length := by
  have front := exponent_foldl 0 ⟨0, exponent⟩ wholeDigits
  have behind := exponent_foldl 4 (ofDigits wholeDigits [] exponent) fractionDigits
  rw [← whole_eq_lowered] at front
  rw [← fraction_eq_lowered] at behind
  change (ofDigits wholeDigits [] exponent).exponent = _ at front
  change (ofDigits wholeDigits fractionDigits exponent).exponent = _ at behind
  rw [behind, front, dropped, List.length_append]
  push_cast
  ring

/-- Nothing is dropped of up to fifteen digits. -/
theorem ofDigits_of_few (small : ∀ digit ∈ wholeDigits, digit < 16)
    (smallBehind : ∀ digit ∈ fractionDigits, digit < 16)
    (few : wholeDigits.length + fractionDigits.length ≤ 15) (exponent : Int) :
    ofDigits wholeDigits fractionDigits exponent =
      ⟨Numeral.ofDigits 16 (wholeDigits ++ fractionDigits),
        exponent - 4 * fractionDigits.length⟩ := by
  rcases exists_isMadeOf small smallBehind exponent with ⟨taken, seen, made⟩
  have none : dropped wholeDigits fractionDigits exponent = [] := by
    apply Decidable.byContradiction
    intro some
    have lengths := congrArg List.length seen
    rw [List.length_append, List.length_append] at lengths
    have fewer : taken.length ≤ 14 := by
      have positive := List.length_pos_iff.mpr some
      omega
    have digits : ∀ digit ∈ taken, digit < 16 :=
      (List.forall_mem_append.mp (seen ▸ List.forall_mem_append.mpr ⟨small, smallBehind⟩)).1
    have below : Numeral.ofDigits 16 taken < limit :=
      calc
        Numeral.ofDigits 16 taken < 16 ^ taken.length :=
          Numeral.ofDigits_lt_pow (by decide) digits
        _ ≤ 16 ^ 14 := Nat.pow_le_pow_right (by decide) fewer
        _ ≤ limit := by decide
    exact Nat.not_lt_of_le (made.full some) below
  have mantissa := made.marked
  have lowered := exponent_ofDigits wholeDigits fractionDigits exponent
  rw [none, List.append_nil] at seen
  rw [none, List.foldl_nil, seen] at mantissa
  rw [none, List.length_nil, Nat.cast_zero, mul_zero, add_zero] at lowered
  rw [← mantissa, ← lowered]

end Numerals

end Gathered
end Binary64
end FrameMachine
