import FrameMachine.Operand

namespace FrameMachine

/-!
# Errors

Everything that can go wrong with a program or its run is a cause with the data
it needs.  Each cause belongs to an `ErrorKind`, which fixes the exit code of the
process, and has one text.
-/

/-- Why a program is not well formed. -/
inductive Flaw where
  | invalidJson
  | orderOutOfRange (order : Int64)
  | repeatedOrder (order : Int64)
  | unknownOpcode (name : String)
  | argumentCount (opcode : Opcode) (order : Int64) (given : Nat)
  | emptyLabel
  | badTypeName (name : String)
  | badLiteral (kind text : String)
  | unknownArgumentKind (kind : String)
  | misplacedArgument (kind value : String)
  | badVariable (text : String)
  | badScope (scope text : String)
  | emptyVariableName (text : String)
  | badOrder (order : Int64)
  | operandCount (opcode : Opcode) (given : Nat)
  | operandKind (opcode : Opcode) (slot : Nat) (found : OperandKind)
  | uninitializedLiteral (opcode : Opcode)
  | missingOperand (opcode : Opcode) (slot : Nat)
  | operandMismatch (opcode : Opcode) (slot : Nat) (expected : Slot) (found : OperandKind)
deriving DecidableEq

/-- The text of a flaw.  Slots are counted from one. -/
def Flaw.message : Flaw → String
  | .invalidJson => "invalid program JSON"
  | .orderOutOfRange order =>
      "instruction order " ++ Numeral.decimal order.toInt ++ " is out of range"
  | .repeatedOrder order =>
      "instruction order " ++ Numeral.decimal order.toInt ++ " appears twice"
  | .unknownOpcode name => "unknown opcode '" ++ name ++ "'"
  | .argumentCount opcode order given =>
      opcode.mnemonic ++ " (order " ++ Numeral.decimal order.toInt ++ ") expects " ++
        toString opcode.signature.length ++ " argument(s), got " ++ toString given
  | .emptyLabel => "empty label name"
  | .badTypeName name => "bad type name '" ++ name ++ "'"
  | .badLiteral kind text => "bad " ++ kind ++ " literal '" ++ text ++ "'"
  | .unknownArgumentKind kind => "unknown argument type '" ++ kind ++ "'"
  | .misplacedArgument kind value =>
      "argument '" ++ value ++ "' of type " ++ kind ++ " is not allowed here"
  | .badVariable text => "bad variable '" ++ text ++ "'"
  | .badScope scope text => "bad frame '" ++ scope ++ "' in '" ++ text ++ "'"
  | .emptyVariableName text => "empty variable name in '" ++ text ++ "'"
  | .badOrder order => "bad order " ++ Numeral.decimal order.toInt
  | .operandCount opcode given =>
      opcode.mnemonic ++ " expects " ++ toString opcode.signature.length ++
        " operand(s), got " ++ toString given
  | .operandKind opcode slot found =>
      opcode.mnemonic ++ " operand " ++ toString (slot + 1) ++ " cannot be a " ++ found.name
  | .uninitializedLiteral opcode => opcode.mnemonic ++ " has an uninitialized literal"
  | .missingOperand opcode slot =>
      opcode.mnemonic ++ " is missing operand " ++ toString (slot + 1)
  | .operandMismatch opcode slot expected found =>
      opcode.mnemonic ++ " operand " ++ toString (slot + 1) ++ " should be a " ++
        expected.name ++ ", found a " ++ found.name

/-- Operands of kinds that do not fit what is done with them. -/
inductive KindMismatch where
  | binary (operation : BinaryOperation) (left right : Kind)
  | unary (operation : UnaryOperation) (operand : Kind)
  | replacement (target index source : Kind)
  | exitCode (kind : Kind)
deriving DecidableEq

/-- The text of a mismatch of kinds. -/
def KindMismatch.message : KindMismatch → String
  | .binary operation left right =>
      operation.name ++ " expects " ++ operation.expects ++ ", got " ++ left.name ++
        " and " ++ right.name
  | .unary operation operand =>
      operation.name ++ " expects " ++ operation.expects ++ ", got " ++ operand.name
  | .replacement target index source =>
      "SETCHAR expects a string, an int and a string, got " ++ target.name ++ ", " ++
        index.name ++ " and " ++ source.name
  | .exitCode kind => "EXIT expects an int, got " ++ kind.name

/-- Operands of the right kind with a value that cannot be used. -/
inductive BadValue where
  | overflow (operation : BinaryOperation) (left right : Int64)
  | integerDivisionByZero
  | floatDivisionByZero
  | notAnInteger (x : Binary64)
  | exitCode (code : Int64)
deriving DecidableEq

/-- The highest exit code that a program may ask for. -/
def maxExitCode : Nat := 49

/-- The text of a bad value. -/
def BadValue.message : BadValue → String
  | .overflow operation left right =>
      operation.name ++ " overflows: " ++ Numeral.decimal left.toInt ++ " and " ++
        Numeral.decimal right.toInt
  | .integerDivisionByZero => "integer division by zero"
  | .floatDivisionByZero => "float division by zero"
  | .notAnInteger x => "float " ++ x.shortestText ++ " does not fit an int"
  | .exitCode code =>
      "exit code " ++ Numeral.decimal code.toInt ++ " outside 0..=" ++ toString maxExitCode

/-- A position or a code point that no string can have. -/
inductive BadText where
  | index (position : Int64) (length : Nat)
  | noCharacter (position : Int64)
  | codePoint (code : Int64)
  | emptyReplacement
deriving DecidableEq

/-- The text of a bad position or code point. -/
def BadText.message : BadText → String
  | .index position length =>
      "index " ++ Numeral.decimal position.toInt ++ " out of range for string of length " ++
        toString length
  | .noCharacter position => "index " ++ Numeral.decimal position.toInt ++ " out of range"
  | .codePoint code => Numeral.decimal code.toInt ++ " is not a valid code point"
  | .emptyReplacement => "SETCHAR with an empty string"

/-- Why a stream failed. -/
inductive StreamFailure where
  | sinkFull
  | flushFailed
  | sourceBroken
  | isDirectory
deriving DecidableEq

/-- The text of a stream's failure. -/
def StreamFailure.message : StreamFailure → String
  | .sinkFull => "sink full"
  | .flushFailed => "flush failed"
  | .sourceBroken => "source broken"
  | .isDirectory => "Is a directory (os error 21)"

/-- An error of a program or of its run. -/
inductive Error where
  | malformed (flaw : Flaw)
  | duplicateLabel (name : String)
  | undefinedLabel (name : String)
  | redefinition (v : Variable)
  | undefinedVariable (v : Variable)
  | noFrame (scope : Scope)
  | missingValue (v : Variable)
  | emptyCallStack
  | emptyOperandStack
  | kinds (mismatch : KindMismatch)
  | value (bad : BadValue)
  | text (bad : BadText)
  | stream (failure : StreamFailure)
deriving DecidableEq

/-- The kinds of error. -/
inductive ErrorKind where
  | malformedProgram
  | duplicateLabel
  | undefinedLabel
  | variableRedefinition
  | variableNotDefined
  | scopeNotAvailable
  | missingValue
  | callStackEmpty
  | operandStackEmpty
  | operandTypeBad
  | operandValueBad
  | stringIndexBad
  | internal
deriving DecidableEq

/-- The exit code of a process that ends with an error of this kind. -/
def ErrorKind.exitCode : ErrorKind → Nat
  | .malformedProgram => 32
  | .duplicateLabel | .undefinedLabel | .variableRedefinition => 52
  | .operandTypeBad => 53
  | .variableNotDefined => 54
  | .scopeNotAvailable => 55
  | .missingValue | .callStackEmpty | .operandStackEmpty => 56
  | .operandValueBad => 57
  | .stringIndexBad => 58
  | .internal => 99

namespace Error

/-- The kind of an error. -/
def kind : Error → ErrorKind
  | .malformed _ => .malformedProgram
  | .duplicateLabel _ => .duplicateLabel
  | .undefinedLabel _ => .undefinedLabel
  | .redefinition _ => .variableRedefinition
  | .undefinedVariable _ => .variableNotDefined
  | .noFrame _ => .scopeNotAvailable
  | .missingValue _ => .missingValue
  | .emptyCallStack => .callStackEmpty
  | .emptyOperandStack => .operandStackEmpty
  | .kinds _ => .operandTypeBad
  | .value _ => .operandValueBad
  | .text _ => .stringIndexBad
  | .stream _ => .internal

/-- The exit code of a process that ends with this error. -/
def exitCode (error : Error) : Nat :=
  error.kind.exitCode

/-- The text of an error. -/
def message : Error → String
  | .malformed flaw => "Malformed program: " ++ flaw.message
  | .duplicateLabel name => "Duplicate label: " ++ name
  | .undefinedLabel name => "Undefined label: " ++ name
  | .redefinition v => "Variable redefinition: " ++ v.text
  | .undefinedVariable v => "Undefined variable: " ++ v.text
  | .noFrame scope => "Frame not available: " ++ scope.name
  | .missingValue v => "Missing value: " ++ v.text
  | .emptyCallStack => "Call stack is empty"
  | .emptyOperandStack => "Operand stack is empty"
  | .kinds mismatch => "Type error: " ++ mismatch.message
  | .value bad => "Invalid operand value: " ++ bad.message
  | .text bad => "String error: " ++ bad.message
  | .stream failure => "I/O error: " ++ failure.message

end Error
end FrameMachine
