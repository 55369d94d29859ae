import FrameMachine.Binary64.Integer
import FrameMachine.Error
import FrameMachine.Text.Bytes

namespace FrameMachine

/-!
# What the operations compute

An operation first looks at the kinds of its operands, and only when they fit at
their values.  Integers are exact or refused, floats follow binary64 arithmetic,
and a string is the sequence of its code points.
-/

/-- The position in a string of the given length that an index denotes. -/
def charIndex (length : Nat) (index : Int64) : Except Error Nat :=
  if 0 ≤ index.toInt ∧ index.toInt < length then .ok index.toInt.toNat
  else .error (.text (.index index length))

/-- The character at an index. -/
def charAt (text : List Char) (index : Int64) : Except Error Char :=
  match charIndex text.length index with
  | .ok position =>
      match text[position]? with
      | some c => .ok c
      | none => .error (.text (.noCharacter index))
  | .error error => .error error

/-- Equality of two values.  Anything may be compared with `nil`; other values
must be of one kind. -/
def equals : Value → Value → Except Error Bool
  | .nil, other => .ok other.isNil
  | other, .nil => .ok other.isNil
  | .int a, .int b => .ok (a == b)
  | .float a, .float b => .ok (a.equal b)
  | .bool a, .bool b => .ok (a == b)
  | .string a, .string b => .ok (a == b)
  | left, right => .error (.kinds (.binary .eq left.kind right.kind))

namespace BinaryOperation

/-- The error of operands whose kinds do not fit. -/
def mismatch (operation : BinaryOperation) (left right : Value) : Error :=
  .kinds (.binary operation left.kind right.kind)

/-- The exact integer result of an operation, if it has 64 bits. -/
def exact (operation : BinaryOperation) (left right : Int64) (result : Int) :
    Except Error Value :=
  match Numeral.int64? result with
  | some n => .ok (.int n)
  | none => .error (.value (.overflow operation left right))

/-- Sum, difference and product take two integers or two floats. -/
def arithmetic (operation : BinaryOperation) (onInt : Int → Int → Int)
    (onFloat : Binary64 → Binary64 → Binary64) : Value → Value → Except Error Value
  | .int a, .int b => operation.exact a b (onInt a.toInt b.toInt)
  | .float a, .float b => .ok (.float (onFloat a b))
  | left, right => .error (operation.mismatch left right)

/-- The quotient of two integers, rounded toward zero, if there is one and it has
64 bits. -/
def truncatedQuotient? (left right : Int64) : Option Int64 :=
  if right = 0 then none else Numeral.int64? (Int.tdiv left.toInt right.toInt)

/-- The quotient of two integers, rounded down.  Rounding toward zero gives one
too much where a remainder is left and the signs differ. -/
def floorQuotient (left right : Int64) : Except Error Value :=
  if right = 0 then .error (.value .integerDivisionByZero)
  else
    match truncatedQuotient? left right with
    | none => .error (.value (.overflow .idiv left right))
    | some quotient =>
        if left % right ≠ 0 ∧ decide (left < 0) ≠ decide (right < 0) then
          .ok (.int (quotient - 1))
        else .ok (.int quotient)

/-- The order of two strings is that of their bytes. -/
def compareText (left right : String) : Ordering :=
  compareOfLessAndEq (Text.bytes left) (Text.bytes right)

/-- The order of two values of one kind.  Only a NaN has none. -/
def order (operation : BinaryOperation) : Value → Value → Except Error (Option Ordering)
  | .int a, .int b => .ok (some (compare a.toInt b.toInt))
  | .float a, .float b => .ok (a.compare? b)
  | .bool a, .bool b => .ok (some (compare a.toNat b.toNat))
  | .string a, .string b => .ok (some (compareText a b))
  | left, right => .error (operation.mismatch left right)

/-- Whether two values of one kind stand in the given order. -/
def ordered (operation : BinaryOperation) (wanted : Ordering) (left right : Value) :
    Except Error Value :=
  match operation.order left right with
  | .ok found => .ok (.bool (found == some wanted))
  | .error error => .error error

/-- What an operation makes of two values. -/
def apply : BinaryOperation → Value → Value → Except Error Value
  | .add, left, right => arithmetic .add (· + ·) Binary64.add left right
  | .sub, left, right => arithmetic .sub (· - ·) Binary64.sub left right
  | .mul, left, right => arithmetic .mul (· * ·) Binary64.mul left right
  | .idiv, .int a, .int b => floorQuotient a b
  | .div, .float a, .float b =>
      if b.isZero then .error (.value .floatDivisionByZero) else .ok (.float (a.div b))
  | .lt, left, right => ordered .lt .lt left right
  | .gt, left, right => ordered .gt .gt left right
  | .eq, left, right =>
      match equals left right with
      | .ok equal => .ok (.bool equal)
      | .error error => .error error
  | .and, .bool a, .bool b => .ok (.bool (a && b))
  | .or, .bool a, .bool b => .ok (.bool (a || b))
  | .concat, .string a, .string b => .ok (.string (a ++ b))
  | .getChar, .string text, .int index =>
      match charAt text.toList index with
      | .ok c => .ok (.string (String.ofList [c]))
      | .error error => .error error
  | .stri2int, .string text, .int index =>
      match charAt text.toList index with
      | .ok c => .ok (.int (Int64.ofNat c.toNat))
      | .error error => .error error
  | operation, left, right => .error (operation.mismatch left right)

end BinaryOperation

namespace UnaryOperation

/-- The character with the given code point. -/
def charOfCode? (code : Int64) : Option Char :=
  if 0 ≤ code.toInt ∧ code.toInt.toNat.isValidChar then some (Char.ofNat code.toInt.toNat)
  else none

/-- What an operation makes of one value. -/
def apply : UnaryOperation → Value → Except Error Value
  | .not, .bool b => .ok (.bool (!b))
  | .int2char, .int code =>
      match charOfCode? code with
      | some c => .ok (.string (String.ofList [c]))
      | none => .error (.text (.codePoint code))
  | .int2float, .int n => .ok (.float (Binary64.ofInt n.toInt))
  | .float2int, .float x =>
      match x.toInt64? with
      | some n => .ok (.int n)
      | none => .error (.value (.notAnInteger x))
  | .strlen, .string text => .ok (.int (Int64.ofNat text.toList.length))
  | operation, operand => .error (.kinds (.unary operation operand.kind))

end UnaryOperation

/-- The string `target` with the character at `index` replaced by the first
character of `source`.  An empty source is refused before the index is looked
at. -/
def replaceChar : (target index source : Value) → Except Error Value
  | .string target, .int index, .string source =>
      match source.toList with
      | [] => .error (.text .emptyReplacement)
      | c :: _ =>
          match charIndex target.toList.length index with
          | .ok position => .ok (.string (String.ofList (target.toList.set position c)))
          | .error error => .error error
  | target, index, source =>
      .error (.kinds (.replacement target.kind index.kind source.kind))

end FrameMachine
