import FrameMachine.Error

namespace FrameMachine

/-!
# Instructions

An instruction is an opcode with its operands and the order number it had in the
program.  `Instruction.checked` builds only instructions whose operands fit the
opcode.  The accessors do not rely on that check: they report a missing operand or
one of the wrong kind.
-/

/-- An instruction. -/
structure Instruction where
  order : Nat
  opcode : Opcode
  operands : List Operand
deriving DecidableEq

namespace Instruction

/-- The first operand that does not fit its slot, with its position. -/
def misfit? : (position : Nat) → List Operand → List Slot → Option (Nat × Operand)
  | position, operand :: operands, slot :: slots =>
      if operand.fits slot then misfit? (position + 1) operands slots
      else some (position, operand)
  | _, _, _ => none

/-- The instruction with these operands, if their number and kinds fit the
opcode and no literal is the placeholder. -/
def checked (order : Nat) (opcode : Opcode) (operands : List Operand) :
    Except Error Instruction :=
  if operands.length ≠ opcode.signature.length then
    .error (.malformed (.operandCount opcode operands.length))
  else
    match misfit? 0 operands opcode.signature with
    | some (position, operand) =>
        .error (.malformed (.operandKind opcode position operand.kind))
    | none =>
        if operands.contains (.literal .uninitialized) then
          .error (.malformed (.uninitializedLiteral opcode))
        else
          .ok ⟨order, opcode, operands⟩

/-- The operand in a slot. -/
def operandAt (instruction : Instruction) (slot : Nat) : Except Error Operand :=
  match instruction.operands[slot]? with
  | some operand => .ok operand
  | none => .error (.malformed (.missingOperand instruction.opcode slot))

/-- The error of an operand of the wrong kind. -/
def mismatch (instruction : Instruction) (slot : Nat) (expected : Slot)
    (found : Operand) : Error :=
  .malformed (.operandMismatch instruction.opcode slot expected found.kind)

/-- The variable in a slot. -/
def varAt (instruction : Instruction) (slot : Nat) : Except Error Variable :=
  match instruction.operandAt slot with
  | .ok (.var v) => .ok v
  | .ok found => .error (instruction.mismatch slot .var found)
  | .error error => .error error

/-- The variable or literal in a slot. -/
def symbolAt (instruction : Instruction) (slot : Nat) : Except Error Symbol :=
  match instruction.operandAt slot with
  | .ok (.var v) => .ok (.var v)
  | .ok (.literal value) => .ok (.literal value)
  | .ok found => .error (instruction.mismatch slot .symb found)
  | .error error => .error error

/-- The label in a slot. -/
def labelAt (instruction : Instruction) (slot : Nat) : Except Error String :=
  match instruction.operandAt slot with
  | .ok (.label name) => .ok name
  | .ok found => .error (instruction.mismatch slot .label found)
  | .error error => .error error

/-- The type in a slot. -/
def typeAt (instruction : Instruction) (slot : Nat) : Except Error TypeName :=
  match instruction.operandAt slot with
  | .ok (.type name) => .ok name
  | .ok found => .error (instruction.mismatch slot .type found)
  | .error error => .error error

/-- The text of an instruction: its mnemonic and its operands, each after a
space. -/
def text (instruction : Instruction) : String :=
  instruction.operands.foldl (fun line operand => line ++ " " ++ operand.text)
    instruction.opcode.mnemonic

end Instruction
end FrameMachine
