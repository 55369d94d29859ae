import FrameMachine.Proofs.CodePoints

namespace FrameMachine

/-!
# Kinds decide

An operation looks at the kinds of its operands before it looks at anything else.  What it makes
of kinds is a table: the kind of the result where the kinds fit, and nothing where they do not.
An outcome that obeys the table is `Disciplined`.  Operands are then refused for their kinds
exactly where the table has no entry, so no value and no index gets looked at there.  Where the
table has an entry, all results are of that kind, and whatever else an operation refuses is an
error of one further kind that belongs to the operation.
-/

/-- Whether an outcome refuses operands for their kinds. -/
def IsTypeError {α : Type} (outcome : Except Error α) : Prop :=
  ∃ error, outcome = .error error ∧ error.kind = .operandTypeBad

/-- Whether an outcome obeys a table of kinds.  The entry of the table is the kind of a result, and
the refusal is the kind of error that operands of fitting kinds may meet. -/
structure Disciplined (outcome : Except Error Value) (entry : Option Kind)
    (refusal : Option ErrorKind) : Prop where
  typeError : IsTypeError outcome ↔ entry = none
  resultKind : ∀ value, outcome = .ok value → entry = some value.kind
  resultValue : ∀ value, outcome = .ok value → value ≠ .nil ∧ value ≠ .uninitialized
  otherError : ∀ error, outcome = .error error → error.kind ≠ .operandTypeBad →
    refusal = some error.kind

/-! ## Tables -/

namespace Kind

/-- Whether the kind is one of numbers. -/
def isNumeric : Kind → Bool
  | .int | .float => true
  | _ => false

/-- Whether values of the kind can be compared with each other. -/
def isOrdered : Kind → Bool
  | .int | .float | .bool | .string => true
  | .nil | .uninitialized => false

end Kind

namespace BinaryOperation

/-- The kind that an operation makes of two kinds. -/
def resultKind? : BinaryOperation → Kind → Kind → Option Kind
  | .add, left, right | .sub, left, right | .mul, left, right =>
      if left = right ∧ left.isNumeric then some left else none
  | .idiv, .int, .int => some .int
  | .div, .float, .float => some .float
  | .lt, left, right | .gt, left, right =>
      if left = right ∧ left.isOrdered then some .bool else none
  | .eq, left, right =>
      if left = .nil ∨ right = .nil ∨ left = right ∧ left.isOrdered then some .bool else none
  | .and, .bool, .bool => some .bool
  | .or, .bool, .bool => some .bool
  | .concat, .string, .string => some .string
  | .getChar, .string, .int => some .string
  | .stri2int, .string, .int => some .int
  | _, _, _ => none

/-- The kind of error that an operation has for operands of fitting kinds. -/
def refusal? : BinaryOperation → Option ErrorKind
  | .add | .sub | .mul | .idiv | .div => some .operandValueBad
  | .getChar | .stri2int => some .stringIndexBad
  | _ => none

end BinaryOperation

namespace UnaryOperation

/-- The kind that an operation makes of a kind. -/
def resultKind? : UnaryOperation → Kind → Option Kind
  | .not, .bool => some .bool
  | .int2char, .int => some .string
  | .int2float, .int => some .float
  | .float2int, .float => some .int
  | .strlen, .string => some .int
  | _, _ => none

/-- The kind of error that an operation has for an operand of a fitting kind. -/
def refusal? : UnaryOperation → Option ErrorKind
  | .int2char => some .stringIndexBad
  | .float2int => some .operandValueBad
  | _ => none

end UnaryOperation

/-- The kind that replacing a character makes of three kinds. -/
def replacementKind? : (target index source : Kind) → Option Kind
  | .string, .int, .string => some .string
  | _, _, _ => none

/-! ## Disciplined outcomes -/

section Outcomes

variable {refusal : Option ErrorKind}

theorem disciplined_mismatch (mismatch : KindMismatch) :
    Disciplined (.error (.kinds mismatch)) none refusal where
  typeError := iff_of_true ⟨_, rfl, rfl⟩ rfl
  resultKind := by
    intro value given
    cases given
  resultValue := by
    intro value given
    cases given
  otherError := by
    intro error ended proper
    cases ended
    exact absurd rfl proper

theorem disciplined_value {value : Value} (proper : value ≠ .nil ∧ value ≠ .uninitialized) :
    Disciplined (.ok value) (some value.kind) refusal where
  typeError := by
    refine iff_of_false ?_ (Option.some_ne_none _)
    rintro ⟨error, ended, -⟩
    cases ended
  resultKind := by
    intro other given
    cases given
    rfl
  resultValue := by
    intro other given
    cases given
    exact proper
  otherError := by
    intro error ended
    cases ended

theorem disciplined_refusal (error : Error) (other : error.kind ≠ .operandTypeBad) (kind : Kind) :
    Disciplined (.error error) (some kind) (some error.kind) where
  typeError := by
    refine iff_of_false ?_ (Option.some_ne_none _)
    rintro ⟨found, ended, typeError⟩
    cases ended
    exact other typeError
  resultKind := by
    intro value given
    cases given
  resultValue := by
    intro value given
    cases given
  otherError := by
    intro found ended _
    cases ended
    rfl

theorem disciplined_badValue (bad : BadValue) (kind : Kind) :
    Disciplined (.error (.value bad)) (some kind) (some .operandValueBad) :=
  disciplined_refusal (.value bad) ErrorKind.noConfusion kind

theorem disciplined_badText (bad : BadText) (kind : Kind) :
    Disciplined (.error (.text bad)) (some kind) (some .stringIndexBad) :=
  disciplined_refusal (.text bad) ErrorKind.noConfusion kind

/-- Whether two outcomes do not differ in kinds. -/
structure SameKinds (first second : Except Error Value) : Prop where
  typeError : IsTypeError first ↔ IsTypeError second
  resultKind : ∀ value other, first = .ok value → second = .ok other → value.kind = other.kind

theorem Disciplined.sameKinds {first second : Except Error Value} {entry : Option Kind}
    (one : Disciplined first entry refusal) (other : Disciplined second entry refusal) :
    SameKinds first second where
  typeError := one.typeError.trans other.typeError.symm
  resultKind := by
    intro value otherValue given otherGiven
    have same := (one.resultKind value given).symm.trans (other.resultKind otherValue otherGiven)
    exact Option.some.inj same

end Outcomes

/-! ## Operations -/

/-- Whatever is done with a character, a missing one is refused as such. -/
theorem disciplined_charAt (text : List Char) (index : Int64) {change : Char → Value} {kind : Kind}
    (proper : ∀ c, (change c).kind = kind ∧ change c ≠ .nil ∧ change c ≠ .uninitialized) :
    Disciplined ((charAt text index).map change) (some kind) (some .stringIndexBad) := by
  rw [charAt_eq]
  cases characterAt? text index with
  | none => exact disciplined_badText _ kind
  | some c =>
      rw [← (proper c).1]
      exact disciplined_value (proper c).2

namespace BinaryOperation

theorem disciplined_exact (operation : BinaryOperation) (left right : Int64) (result : Int) :
    Disciplined (operation.exact left right result) (some .int) (some .operandValueBad) := by
  unfold exact
  cases Numeral.int64? result with
  | none => exact disciplined_badValue _ .int
  | some n => exact disciplined_value (by simp)

theorem disciplined_arithmetic (operation : BinaryOperation) (onInt : Int → Int → Int)
    (onFloat : Binary64 → Binary64 → Binary64) (left right : Value) :
    Disciplined (operation.arithmetic onInt onFloat left right)
      (if left.kind = right.kind ∧ left.kind.isNumeric then some left.kind else none)
      (some .operandValueBad) := by
  cases left with
  | int a =>
      cases right with
      | int b => exact disciplined_exact operation a b _
      | _ => exact disciplined_mismatch _
  | float x =>
      cases right with
      | float y => exact disciplined_value (by simp)
      | _ => exact disciplined_mismatch _
  | _ => cases right <;> exact disciplined_mismatch _

theorem disciplined_floorQuotient (left right : Int64) :
    Disciplined (floorQuotient left right) (some .int) (some .operandValueBad) := by
  unfold floorQuotient
  split
  · exact disciplined_badValue _ .int
  · split
    · exact disciplined_badValue _ .int
    · split <;> exact disciplined_value (by simp)

theorem disciplined_ordered (operation : BinaryOperation) (wanted : Ordering)
    (left right : Value) :
    Disciplined (operation.ordered wanted left right)
      (if left.kind = right.kind ∧ left.kind.isOrdered then some .bool else none) none := by
  cases left <;> cases right <;>
    first
    | exact disciplined_mismatch _
    | exact disciplined_value (by simp)

theorem eq_eq_map (left right : Value) :
    apply .eq left right = (equals left right).map Value.bool := by
  rw [apply]
  cases equals left right <;> rfl

theorem disciplined_equals (left right : Value) :
    Disciplined ((equals left right).map Value.bool) (resultKind? .eq left.kind right.kind)
      none := by
  cases left <;> cases right <;>
    first
    | exact disciplined_mismatch _
    | exact disciplined_value (by simp)

theorem disciplined_apply (operation : BinaryOperation) (left right : Value) :
    Disciplined (operation.apply left right) (operation.resultKind? left.kind right.kind)
      operation.refusal? := by
  cases operation with
  | add => exact disciplined_arithmetic .add _ _ left right
  | sub => exact disciplined_arithmetic .sub _ _ left right
  | mul => exact disciplined_arithmetic .mul _ _ left right
  | lt => exact disciplined_ordered .lt .lt left right
  | gt => exact disciplined_ordered .gt .gt left right
  | eq =>
      rw [eq_eq_map]
      exact disciplined_equals left right
  -- Of all pairs of kinds only one fits the operations that are left.
  | idiv =>
      cases left <;> cases right <;> try exact disciplined_mismatch _
      exact disciplined_floorQuotient _ _
  | div =>
      cases left <;> cases right <;> try exact disciplined_mismatch _
      simp only [apply]
      split
      · exact disciplined_badValue _ .float
      · exact disciplined_value (by simp)
  | and =>
      cases left <;> cases right <;> try exact disciplined_mismatch _
      exact disciplined_value (by simp)
  | or =>
      cases left <;> cases right <;> try exact disciplined_mismatch _
      exact disciplined_value (by simp)
  | concat =>
      cases left <;> cases right <;> try exact disciplined_mismatch _
      exact disciplined_value (by simp)
  | getChar =>
      cases left <;> cases right <;> try exact disciplined_mismatch _
      rw [getChar_eq]
      exact disciplined_charAt _ _ fun c => ⟨rfl, by simp⟩
  | stri2int =>
      cases left <;> cases right <;> try exact disciplined_mismatch _
      rw [stri2int_eq]
      exact disciplined_charAt _ _ fun c => ⟨rfl, by simp⟩

/-- Every operation that may refuse operands of fitting kinds does so for some. -/
theorem exists_refusal {operation : BinaryOperation} {refusal : ErrorKind}
    (table : operation.refusal? = some refusal) :
    ∃ left right error, operation.apply left right = .error error ∧ error.kind = refusal := by
  cases operation <;> cases table
  · exact ⟨.int Int64.maxValue, .int 1, _, rfl, rfl⟩
  · exact ⟨.int Int64.minValue, .int 1, _, rfl, rfl⟩
  · exact ⟨.int Int64.maxValue, .int 2, _, rfl, rfl⟩
  · exact ⟨.int 1, .int 0, _, rfl, rfl⟩
  · exact ⟨.float (.zero false), .float (.zero false), _, rfl, rfl⟩
  · exact ⟨.string "", .int 0, _, rfl, rfl⟩
  · exact ⟨.string "", .int 0, _, rfl, rfl⟩

end BinaryOperation

namespace UnaryOperation

theorem disciplined_apply (operation : UnaryOperation) (operand : Value) :
    Disciplined (operation.apply operand) (operation.resultKind? operand.kind)
      operation.refusal? := by
  cases operation with
  | not =>
      cases operand <;> try exact disciplined_mismatch _
      exact disciplined_value (by simp)
  | int2char =>
      cases operand <;> try exact disciplined_mismatch _
      simp only [apply]
      split
      · exact disciplined_value (by simp)
      · exact disciplined_badText _ .string
  | int2float =>
      cases operand <;> try exact disciplined_mismatch _
      exact disciplined_value (by simp)
  | float2int =>
      cases operand <;> try exact disciplined_mismatch _
      simp only [apply]
      split
      · exact disciplined_value (by simp)
      · exact disciplined_badValue _ .int
  | strlen =>
      cases operand <;> try exact disciplined_mismatch _
      exact disciplined_value (by simp)

theorem exists_refusal {operation : UnaryOperation} {refusal : ErrorKind}
    (table : operation.refusal? = some refusal) :
    ∃ operand error, operation.apply operand = .error error ∧ error.kind = refusal := by
  cases operation <;> cases table
  · exact ⟨.int (-1), _, rfl, rfl⟩
  · exact ⟨.float (.infinite false), _, rfl, rfl⟩

end UnaryOperation

theorem disciplined_replaceChar (target index source : Value) :
    Disciplined (replaceChar target index source)
      (replacementKind? target.kind index.kind source.kind) (some .stringIndexBad) := by
  cases target <;> cases index <;> cases source <;> try exact disciplined_mismatch _
  rename_i s i u
  cases spelled : u.toList with
  | nil =>
      simp only [replaceChar, spelled]
      exact disciplined_badText _ .string
  | cons c rest =>
      by_cases within : IsWithin s.toList.length i
      · rw [replaceChar_of_within spelled within]
        exact disciplined_value (by simp)
      · simp only [replaceChar, spelled, charIndex_of_not_within within]
        exact disciplined_badText _ .string

/-! ## All operations -/

/-- Every operation obeys its table of kinds.  Whether operands are refused for their kinds
depends on the kinds alone, whatever else is wrong with them, and so does the kind of a result,
which is never `nil` or the placeholder.  The only other errors are bad values in arithmetic and
in the conversion to an integer, and bad positions and codes in the operations on characters,
and each of these operations has them. -/
theorem operations_obey_kind_tables :
    (∀ (operation : BinaryOperation) (left right : Value),
      Disciplined (operation.apply left right) (operation.resultKind? left.kind right.kind)
        operation.refusal? ∧
      ∀ otherLeft otherRight : Value, otherLeft.kind = left.kind → otherRight.kind = right.kind →
        SameKinds (operation.apply left right) (operation.apply otherLeft otherRight)) ∧
    (∀ (operation : UnaryOperation) (operand : Value),
      Disciplined (operation.apply operand) (operation.resultKind? operand.kind)
        operation.refusal? ∧
      ∀ other : Value, other.kind = operand.kind →
        SameKinds (operation.apply operand) (operation.apply other)) ∧
    (∀ target index source : Value,
      Disciplined (replaceChar target index source)
        (replacementKind? target.kind index.kind source.kind) (some .stringIndexBad) ∧
      ∀ otherTarget otherIndex otherSource : Value, otherTarget.kind = target.kind →
        otherIndex.kind = index.kind → otherSource.kind = source.kind →
        SameKinds (replaceChar target index source)
          (replaceChar otherTarget otherIndex otherSource)) ∧
    (∀ left right : Value,
      Disciplined ((equals left right).map Value.bool)
        (BinaryOperation.resultKind? .eq left.kind right.kind) none ∧
      ∀ otherLeft otherRight : Value, otherLeft.kind = left.kind → otherRight.kind = right.kind →
        SameKinds ((equals left right).map Value.bool)
          ((equals otherLeft otherRight).map Value.bool)) ∧
    (∀ (operation : BinaryOperation) (refusal : ErrorKind), operation.refusal? = some refusal →
      ∃ left right error, operation.apply left right = .error error ∧ error.kind = refusal) ∧
    (∀ (operation : UnaryOperation) (refusal : ErrorKind), operation.refusal? = some refusal →
      ∃ operand error, operation.apply operand = .error error ∧ error.kind = refusal) ∧
    ∃ target index source error, replaceChar target index source = .error error ∧
      error.kind = .stringIndexBad := by
  refine ⟨fun operation left right => ?_, fun operation operand => ?_,
    fun target index source => ?_, fun left right => ?_,
    fun operation refusal => BinaryOperation.exists_refusal,
    fun operation refusal => UnaryOperation.exists_refusal,
    .string "", .int 0, .string "", _, rfl, rfl⟩
  · have obeys := operation.disciplined_apply left right
    refine ⟨obeys, fun otherLeft otherRight sameLeft sameRight => obeys.sameKinds ?_⟩
    rw [← sameLeft, ← sameRight]
    exact operation.disciplined_apply otherLeft otherRight
  · have obeys := operation.disciplined_apply operand
    refine ⟨obeys, fun other same => obeys.sameKinds ?_⟩
    rw [← same]
    exact operation.disciplined_apply other
  · have obeys := disciplined_replaceChar target index source
    refine ⟨obeys, fun otherTarget otherIndex otherSource sameTarget sameIndex sameSource =>
      obeys.sameKinds ?_⟩
    rw [← sameTarget, ← sameIndex, ← sameSource]
    exact disciplined_replaceChar otherTarget otherIndex otherSource
  · have obeys := BinaryOperation.disciplined_equals left right
    refine ⟨obeys, fun otherLeft otherRight sameLeft sameRight => obeys.sameKinds ?_⟩
    rw [← sameLeft, ← sameRight]
    exact BinaryOperation.disciplined_equals otherLeft otherRight

/-- A division by zero is not refused for its kinds, because no division of integers is, and an
index beyond a string is refused for its kind if it is a float. -/
theorem operations_obey_kind_tables_zero_divisor :
    SameKinds (BinaryOperation.apply .idiv (.int 7) (.int 0))
      (BinaryOperation.apply .idiv (.int 7) (.int 2)) ∧
    ¬IsTypeError (BinaryOperation.apply .idiv (.int 7) (.int 0)) ∧
    IsTypeError (BinaryOperation.apply .getChar (.string "") (.float (.infinite false))) := by
  rcases operations_obey_kind_tables with ⟨binary, -⟩
  rcases binary .idiv (.int 7) (.int 0) with ⟨obeys, same⟩
  refine ⟨same (.int 7) (.int 2) rfl rfl, fun refused => ?_, ?_⟩
  · cases obeys.typeError.mp refused
  · exact (binary .getChar (.string "") (.float (.infinite false))).1.typeError.mpr rfl

end FrameMachine
