import FrameMachine.Proofs.Action
import FrameMachine.Proofs.Checked

namespace FrameMachine

/-!
# Regular results

Whatever the machine computes with values ends in one of two ways: with a value that
is not the placeholder, or with an error that lies in the values and the frames.  Such an
error is neither a flaw that a check before the run should have found nor the failure of a
stream, and neither a stack nor a label is to blame for it.  Results of this form are called
regular here.

Both halves matter together.  The errors of a checked program are ordinary because its
computations are regular, and the placeholder never reaches the operand stack for the
same reason.
-/

/-- Whether an error lies in the run itself. -/
def Error.isOrdinary : Error → Bool
  | .malformed _ | .duplicateLabel _ | .stream _ => false
  | _ => true

/-- The kinds of error that a run itself never has. -/
theorem Error.kind_of_isOrdinary {error : Error} (ordinary : error.isOrdinary = true) :
    error.kind ≠ .malformedProgram ∧ error.kind ≠ .duplicateLabel ∧ error.kind ≠ .internal := by
  cases error <;> simp_all [Error.isOrdinary, Error.kind]

/-- Whether an error lies in what is computed with values and frames. -/
def Error.isComputed : Error → Bool
  | .redefinition _ | .undefinedVariable _ | .noFrame _ | .missingValue _ | .kinds _ | .value _
  | .text _ => true
  | _ => false

theorem Error.isOrdinary_of_isComputed {error : Error} (computed : error.isComputed = true) :
    error.isOrdinary = true := by
  cases error <;> simp_all [Error.isComputed, Error.isOrdinary]

/-- A value that is not the placeholder, or an error of a computation. -/
def IsRegular : Except Error Value → Prop
  | .ok value => value.isInitialized = true
  | .error error => error.isComputed = true

theorem IsRegular.value {result : Except Error Value} (regular : IsRegular result)
    {value : Value} (ended : result = .ok value) : value.isInitialized = true := by
  subst ended
  exact regular

theorem IsRegular.error {result : Except Error Value} (regular : IsRegular result)
    {error : Error} (ended : result = .error error) : error.isComputed = true := by
  subst ended
  exact regular

/-! ## Operations -/

theorem charIndex_error {length : Nat} {index : Int64} {error : Error}
    (failed : charIndex length index = .error error) : error.isComputed = true := by
  unfold charIndex at failed
  split at failed
  · cases failed
  · cases failed
    rfl

theorem charAt_error {text : List Char} {index : Int64} {error : Error}
    (failed : charAt text index = .error error) : error.isComputed = true := by
  unfold charAt at failed
  split at failed
  · split at failed
    · cases failed
    · cases failed
      rfl
  · rename_i outside
    cases failed
    exact charIndex_error outside

theorem equals_error {left right : Value} {error : Error}
    (failed : equals left right = .error error) : error.isComputed = true := by
  unfold equals at failed
  split at failed <;> cases failed
  rfl

namespace BinaryOperation

theorem exact_isRegular (operation : BinaryOperation) (left right : Int64) (result : Int) :
    IsRegular (operation.exact left right result) := by
  unfold exact
  split <;> rfl

theorem arithmetic_isRegular (operation : BinaryOperation) (onInt : Int → Int → Int)
    (onFloat : Binary64 → Binary64 → Binary64) (left right : Value) :
    IsRegular (operation.arithmetic onInt onFloat left right) := by
  unfold arithmetic
  split
  · exact operation.exact_isRegular ..
  · rfl
  · rfl

theorem floorQuotient_isRegular (left right : Int64) :
    IsRegular (floorQuotient left right) := by
  unfold floorQuotient
  split
  · rfl
  · split
    · rfl
    · split <;> rfl

theorem ordered_isRegular (operation : BinaryOperation) (wanted : Ordering)
    (left right : Value) : IsRegular (operation.ordered wanted left right) := by
  unfold ordered order
  cases left <;> cases right <;> rfl

/-- An operation on two values never makes the placeholder. -/
theorem apply_isRegular (operation : BinaryOperation) (left right : Value) :
    IsRegular (operation.apply left right) := by
  unfold apply
  split
  · exact arithmetic_isRegular ..
  · exact arithmetic_isRegular ..
  · exact arithmetic_isRegular ..
  · exact floorQuotient_isRegular ..
  · split <;> rfl
  · exact ordered_isRegular ..
  · exact ordered_isRegular ..
  · split
    · rfl
    · exact equals_error ‹_›
  · rfl
  · rfl
  · rfl
  · split
    · rfl
    · exact charAt_error ‹_›
  · split
    · rfl
    · exact charAt_error ‹_›
  · rfl

end BinaryOperation

/-- An operation on one value never makes the placeholder. -/
theorem UnaryOperation.apply_isRegular (operation : UnaryOperation) (operand : Value) :
    IsRegular (operation.apply operand) := by
  unfold apply
  split
  · rfl
  · split <;> rfl
  · rfl
  · split <;> rfl
  · rfl
  · rfl

theorem replaceChar_isRegular (target index source : Value) :
    IsRegular (replaceChar target index source) := by
  unfold replaceChar
  split
  · split
    · rfl
    · split
      · rfl
      · exact charIndex_error ‹_›
  · rfl

theorem exitCodeOf_error {value : Value} {error : Error}
    (failed : exitCodeOf value = .error error) : error.isComputed = true := by
  unfold exitCodeOf at failed
  split at failed
  · split at failed <;> cases failed
    rfl
  · cases failed
    rfl

/-- What was read is a value, and `nil` stands for what could not be read. -/
private theorem isInitialized_getD_nil {α : Type} {make : α → Value}
    (makes : ∀ content, (make content).isInitialized = true) (content : Option α) :
    ((content.map make).getD .nil).isInitialized = true := by
  cases content with
  | none => rfl
  | some content => exact makes content

/-- A line of input gives a value of the type or `nil`. -/
theorem InputStream.valueOfLine_isInitialized (type : TypeName) (line : List UInt8) :
    (valueOfLine type line).isInitialized = true := by
  unfold valueOfLine
  split
  · rfl
  · split
    · rfl
    · cases type with
      | int => exact isInitialized_getD_nil (fun _ => rfl) _
      | float => exact isInitialized_getD_nil (fun _ => rfl) _
      | bool => rfl
      | string => rfl

/-! ## Frames -/

namespace FrameStore

variable {store after : FrameStore} {v : Variable} {error : Error}

theorem Misses.isComputed (missed : store.Misses v error) : error.isComputed = true := by
  rcases missed with ⟨rfl, -⟩ | ⟨rfl, -⟩ <;> rfl

theorem define_error (failed : store.define v = .error error after) :
    error.isComputed = true := by
  rcases (define_eq_error_iff.mp failed).1 with ⟨rfl, -⟩ | ⟨rfl, -⟩ <;> rfl

theorem peek_error (failed : store.peek v = .error error) : error.isComputed = true :=
  (peek_eq_error_iff.mp failed).isComputed

theorem read_isRegular (store : FrameStore) (v : Variable) : IsRegular (store.read v) := by
  cases outcome : store.read v with
  | ok value =>
      rcases read_eq_ok_iff.mp outcome with ⟨-, -, -, initialized⟩
      exact initialized
  | error error =>
      rcases read_eq_error_iff.mp outcome with missed | ⟨rfl, -⟩
      · exact missed.isComputed
      · rfl

theorem assign_error {value : Value} (failed : store.assign v value = .error error after) :
    error.isComputed = true :=
  (assign_eq_error_iff.mp failed).1.isComputed

theorem push_error (failed : store.push = .error error after) : error.isComputed = true := by
  rcases (push_eq_error_iff.mp failed).1 with ⟨rfl, -⟩
  rfl

theorem pop_error (failed : store.pop = .error error after) : error.isComputed = true := by
  rcases (pop_eq_error_iff.mp failed).1 with ⟨rfl, -⟩
  rfl

end FrameStore

end FrameMachine
