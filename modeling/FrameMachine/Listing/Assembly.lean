import FrameMachine.Listing.Basic
import FrameMachine.Program

namespace FrameMachine
namespace Listing

/-!
# From a listing to a program

A listing is checked in a fixed order.  First the order numbers, in the order of
the listing: each must lie between 1 and `2 ^ 32 - 1` and occur once.  Then, by
increasing order number, each entry: its opcode, the number of its arguments and
each argument in turn.  Last the labels.
-/

/-- The largest order number of an instruction. -/
def maxOrder : Int := 4294967295

/-- Check the order numbers, given those seen before. -/
def checkOrders : (seen : List Int64) → List Entry → Except Error Unit
  | _, [] => .ok ()
  | seen, entry :: rest =>
      if entry.order.toInt ≤ 0 ∨ maxOrder < entry.order.toInt then
        .error (.malformed (.orderOutOfRange entry.order))
      else if seen.contains entry.order then
        .error (.malformed (.repeatedOrder entry.order))
      else checkOrders (entry.order :: seen) rest

/-- The entries by increasing order number. -/
def sorted (entries : List Entry) : List Entry :=
  entries.mergeSort fun left right => decide (left.order.toInt ≤ right.order.toInt)

end Listing

/-- The variable written as `GF@name`, `LF@name` or `TF@name`.  The scope ends at
the first `@`. -/
def Variable.ofText (text : String) : Except Error Variable :=
  match Text.splitAtFirst (· == '@') text.toList with
  | (_, none) => .error (.malformed (.badVariable text))
  | (scope, some name) =>
      match Scope.ofName? (String.ofList scope) with
      | none => .error (.malformed (.badScope (String.ofList scope) text))
      | some scope =>
          if name.isEmpty then .error (.malformed (.emptyVariableName text))
          else .ok ⟨scope, String.ofList name⟩

namespace Listing
namespace Argument

/-- The literal value of a text, if the text fits the declared kind. -/
def literal? (kind text : String) : Option (Option Value) :=
  match kind with
  | "int" => some ((Numeral.integer? text).map Value.int)
  | "float" => some ((Binary64.ofText? text).map Value.float)
  | "bool" =>
      some (if text = "true" then some (.bool true)
        else if text = "false" then some (.bool false)
        else none)
  | "string" => some (some (.string text))
  | "nil" => some (if text = "nil" then some .nil else none)
  | _ => none

/-- The operand that an argument declares, whatever slot it stands in. -/
def declared (argument : Argument) : Except Error Operand :=
  match argument.kind with
  | "var" =>
      match Variable.ofText argument.value with
      | .ok v => .ok (.var v)
      | .error error => .error error
  | "label" =>
      if argument.value = "" then .error (.malformed .emptyLabel)
      else .ok (.label argument.value)
  | "type" =>
      match TypeName.ofName? argument.value with
      | some name => .ok (.type name)
      | none => .error (.malformed (.badTypeName argument.value))
  | kind =>
      match literal? kind argument.value with
      | some (some value) => .ok (.literal value)
      | some none => .error (.malformed (.badLiteral kind argument.value))
      | none => .error (.malformed (.unknownArgumentKind kind))

/-- The operand that an argument gives to a slot. -/
def operand (argument : Argument) (slot : Slot) : Except Error Operand :=
  match argument.declared with
  | .ok operand =>
      if operand.fits slot then .ok operand
      else .error (.malformed (.misplacedArgument argument.kind argument.value))
  | .error error => .error error

/-- The operands that arguments give to slots, one by one. -/
def operands : List Argument → List Slot → Except Error (List Operand)
  | argument :: arguments, slot :: slots =>
      match argument.operand slot with
      | .ok operand =>
          match operands arguments slots with
          | .ok rest => .ok (operand :: rest)
          | .error error => .error error
      | .error error => .error error
  | _, _ => .ok []

end Argument

/-- The order number that the instruction of an entry has, a number of 32 bits. -/
def Entry.order? (entry : Entry) : Option Nat :=
  if 0 ≤ entry.order.toInt ∧ entry.order.toInt ≤ maxOrder then some entry.order.toInt.toNat
  else none

/-- The instruction of an entry. -/
def Entry.instruction (entry : Entry) : Except Error Instruction :=
  match Opcode.ofName? (Text.trim entry.opcode.toList) with
  | none => .error (.malformed (.unknownOpcode entry.opcode))
  | some opcode =>
      if entry.arguments.length ≠ opcode.signature.length then
        .error (.malformed (.argumentCount opcode entry.order entry.arguments.length))
      else
        match Argument.operands entry.arguments opcode.signature with
        | .ok operands =>
            match entry.order? with
            | some order => Instruction.checked order opcode operands
            | none => .error (.malformed (.badOrder entry.order))
        | .error error => .error error

/-- The instructions of entries, one by one. -/
def instructions : List Entry → Except Error (List Instruction)
  | [] => .ok []
  | entry :: entries =>
      match entry.instruction with
      | .ok instruction =>
          match instructions entries with
          | .ok rest => .ok (instruction :: rest)
          | .error error => .error error
      | .error error => .error error

/-- The program of a listing. -/
def assemble (listing : Listing) : Except Error Program :=
  match checkOrders [] listing.entries with
  | .ok _ =>
      match instructions (sorted listing.entries) with
      | .ok instructions => Program.ofInstructions instructions
      | .error error => .error error
  | .error error => .error error

end Listing

/-- The listing written by a text, or the error of a text that is none. -/
def Listing.ofText (text : String) : Except Error Listing :=
  match Listing.ofText? text with
  | some listing => .ok listing
  | none => .error (.malformed .invalidJson)

/-- The program written by a text. -/
def Program.ofText (text : String) : Except Error Program :=
  match Listing.ofText text with
  | .ok listing => listing.assemble
  | .error error => .error error

end FrameMachine
