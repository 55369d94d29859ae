import FrameMachine.Opcode
import FrameMachine.Variable

namespace FrameMachine

/-!
# Operands

An operand names a variable, holds a literal, names a label or names a type.
-/

/-- The types that can be asked of a line of input. -/
inductive TypeName where
  | int
  | float
  | bool
  | string
deriving DecidableEq

namespace TypeName

/-- The name of a type in programs. -/
def name : TypeName → String
  | .int => "int"
  | .float => "float"
  | .bool => "bool"
  | .string => "string"

/-- The type with the given name. -/
def ofName? : String → Option TypeName
  | "int" => some .int
  | "float" => some .float
  | "bool" => some .bool
  | "string" => some .string
  | _ => none

end TypeName

/-- A variable or a literal. -/
inductive Symbol where
  | var (v : Variable)
  | literal (value : Value)
deriving DecidableEq

/-- What an operand is. -/
inductive OperandKind where
  | var
  | literal
  | label
  | type
deriving DecidableEq

/-- The name of an operand's kind in messages. -/
def OperandKind.name : OperandKind → String
  | .var => "var"
  | .literal => "literal"
  | .label => "label"
  | .type => "type"

/-- An operand of an instruction. -/
inductive Operand where
  | var (v : Variable)
  | literal (value : Value)
  | label (name : String)
  | type (name : TypeName)
deriving DecidableEq

namespace Operand

/-- What the operand is. -/
def kind : Operand → OperandKind
  | .var _ => .var
  | .literal _ => .literal
  | .label _ => .label
  | .type _ => .type

/-- Whether the operand may stand in the given slot. -/
def fits : Operand → Slot → Bool
  | .var _, .var => true
  | .var _, .symb => true
  | .literal _, .symb => true
  | .label _, .label => true
  | .type _, .type => true
  | _, _ => false

/-- The text of an operand. -/
def text : Operand → String
  | .var v => v.text
  | .literal value => value.text
  | .label name => name
  | .type name => name.name

end Operand
end FrameMachine
