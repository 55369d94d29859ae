import FrameMachine.Value

namespace FrameMachine

/-!
# Operations on values

The machine computes with thirteen operations on two values and five on one.
This module names them; what they compute is in `FrameMachine.Operation.Apply`.
-/

/-- The operations on two values. -/
inductive BinaryOperation where
  | add
  | sub
  | mul
  | idiv
  | div
  | lt
  | gt
  | eq
  | and
  | or
  | concat
  | getChar
  | stri2int
deriving DecidableEq

namespace BinaryOperation

/-- The name of an operation in programs and messages. -/
def name : BinaryOperation → String
  | .add => "ADD"
  | .sub => "SUB"
  | .mul => "MUL"
  | .idiv => "IDIV"
  | .div => "DIV"
  | .lt => "LT"
  | .gt => "GT"
  | .eq => "EQ"
  | .and => "AND"
  | .or => "OR"
  | .concat => "CONCAT"
  | .getChar => "GETCHAR"
  | .stri2int => "STRI2INT"

/-- What the operation asks of the kinds of its operands, in words. -/
def expects : BinaryOperation → String
  | .add | .sub | .mul => "two ints or two floats"
  | .idiv => "two ints"
  | .div => "two floats"
  | .lt | .gt => "two values of the same non-nil type"
  | .eq => "two values of the same type or nil"
  | .and | .or => "two bools"
  | .concat => "two strings"
  | .getChar | .stri2int => "a string and an int"

end BinaryOperation

/-- The operations on one value. -/
inductive UnaryOperation where
  | not
  | int2char
  | int2float
  | float2int
  | strlen
deriving DecidableEq

namespace UnaryOperation

/-- The name of an operation in programs and messages. -/
def name : UnaryOperation → String
  | .not => "NOT"
  | .int2char => "INT2CHAR"
  | .int2float => "INT2FLOAT"
  | .float2int => "FLOAT2INT"
  | .strlen => "STRLEN"

/-- What the operation asks of the kind of its operand, in words. -/
def expects : UnaryOperation → String
  | .not => "a bool"
  | .int2char | .int2float => "an int"
  | .float2int => "a float"
  | .strlen => "a string"

end UnaryOperation
end FrameMachine
