import FrameMachine.Instruction

namespace FrameMachine

/-!
# Programs

A program is a list of instructions in the order of their execution, with the
positions of its labels.  No two labels may have one name.
-/

/-- The positions of the labels of a program. -/
structure LabelTable where
  entries : List (String × Nat)
deriving DecidableEq

namespace LabelTable

/-- The table without labels. -/
def empty : LabelTable := ⟨[]⟩

/-- The position of a label. -/
def find? (table : LabelTable) (name : String) : Option Nat :=
  table.entries.lookup name

/-- Whether there is a label with this name. -/
def contains (table : LabelTable) (name : String) : Bool :=
  (table.find? name).isSome

/-- The position of a label, or the error of a jump to nowhere. -/
def resolve (table : LabelTable) (name : String) : Except Error Nat :=
  match table.find? name with
  | some position => .ok position
  | none => .error (.undefinedLabel name)

/-- The number of labels. -/
def size (table : LabelTable) : Nat :=
  table.entries.length

/-- Add the labels of the instructions from the given position on. -/
def collect : (table : LabelTable) → (position : Nat) → List Instruction →
    Except Error LabelTable
  | table, _, [] => .ok table
  | table, position, instruction :: rest =>
      if instruction.opcode = .label then
        match instruction.labelAt 0 with
        | .ok name =>
            if table.contains name then .error (.duplicateLabel name)
            else collect ⟨(name, position) :: table.entries⟩ (position + 1) rest
        | .error error => .error error
      else
        collect table (position + 1) rest

end LabelTable

/-- A program that can be run. -/
structure Program where
  instructions : List Instruction
  labels : LabelTable
deriving DecidableEq

namespace Program

/-- The program with the given instructions, if its labels are distinct. -/
def ofInstructions (instructions : List Instruction) : Except Error Program :=
  match LabelTable.empty.collect 0 instructions with
  | .ok labels => .ok ⟨instructions, labels⟩
  | .error error => .error error

/-- The number of instructions. -/
def size (program : Program) : Nat :=
  program.instructions.length

/-- The instruction at a position. -/
def at? (program : Program) (position : Nat) : Option Instruction :=
  program.instructions[position]?

/-- The names of the labels, in the order of the program. -/
def labelNames (program : Program) : List String :=
  program.instructions.filterMap fun instruction =>
    if instruction.opcode = .label then (instruction.labelAt 0).toOption else none

end Program
end FrameMachine
