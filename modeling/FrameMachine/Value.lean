import FrameMachine.Binary64.Text
import FrameMachine.Text.Escape

namespace FrameMachine

/-!
# Values

Variables and the operand stack hold tagged scalars.  The placeholder
`uninitialized` lives in a variable between its definition and its first
assignment, and no reader but the type query lets it out.
-/

/-- What a value is. -/
inductive Kind where
  | int
  | float
  | bool
  | string
  | nil
  | uninitialized
deriving DecidableEq

/-- The name of a kind as programs see it.  A variable without a value has the
empty name. -/
def Kind.name : Kind → String
  | .int => "int"
  | .float => "float"
  | .bool => "bool"
  | .string => "string"
  | .nil => "nil"
  | .uninitialized => ""

/-- A value of the machine.  A string is stored as it was written, with its
escapes not decoded. -/
inductive Value where
  | int (n : Int64)
  | float (x : Binary64)
  | bool (b : Bool)
  | string (s : String)
  | nil
  | uninitialized
deriving DecidableEq

namespace Value

/-- The kind of a value. -/
def kind : Value → Kind
  | .int _ => .int
  | .float _ => .float
  | .bool _ => .bool
  | .string _ => .string
  | .nil => .nil
  | .uninitialized => .uninitialized

/-- Whether the value is more than a placeholder. -/
def isInitialized (value : Value) : Bool :=
  value.kind != .uninitialized

/-- Whether the value is `nil`. -/
def isNil (value : Value) : Bool :=
  value.kind == .nil

/-- The text of a truth value. -/
def boolText (b : Bool) : String :=
  if b then "true" else "false"

/-- What the value writes to an output stream. -/
def output : Value → String
  | .int n => Numeral.decimal n.toInt
  | .float x => x.text
  | .bool b => boolText b
  | .string s => String.ofList (Text.decodeEscapes s.toList)
  | .nil => ""
  | .uninitialized => ""

/-- The literal that denotes the value, as dumps show it. -/
def text : Value → String
  | .int n => "int@" ++ Numeral.decimal n.toInt
  | .float x => "float@" ++ x.text
  | .bool b => "bool@" ++ boolText b
  | .string s => "string@" ++ s
  | .nil => "nil@nil"
  | .uninitialized => "<uninitialized>"

end Value
end FrameMachine
