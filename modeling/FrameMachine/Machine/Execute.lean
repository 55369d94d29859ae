import FrameMachine.Machine.Dump

namespace FrameMachine

/-!
# Executing one instruction

Each role of an opcode is one action.  The order in which an action looks at its
operands, pops values and assigns decides which of two errors is reported and what
a fault leaves behind.
-/

/-- Where an executed instruction passes control. -/
inductive Transfer where
  | next
  | toLabel (name : String)
  | toPosition (position : Nat)
  | halt (code : Nat)
deriving DecidableEq

/-- What an instruction can see of the machine besides the state: the program, its
own position, how many instructions were executed including itself, and whether
debugging output is wanted. -/
structure Site where
  program : Program
  position : Nat
  executed : Nat
  debugOutput : Bool

/-- The value that a line of input gives for a type.  A line that is not UTF-8 or
does not denote a value of the type gives `nil`, and so does the end of the
input. -/
def InputStream.valueOfLine (type : TypeName) (line : List UInt8) : Value :=
  if line.isEmpty then .nil
  else
    match decode? line with
    | none => .nil
    | some text =>
        let content := chomp text.toList
        match type with
        | .int => ((Numeral.integer? (String.ofList content)).map Value.int).getD .nil
        | .float => ((Binary64.ofText? (String.ofList content)).map Value.float).getD .nil
        | .bool => .bool (Text.sameIgnoringCase (Text.trim content) "true".toList)
        | .string => .string (String.ofList content)

/-- The exit code that a value asks for. -/
def exitCodeOf : Value → Except Error Nat
  | .int code =>
      if 0 ≤ code.toInt ∧ code.toInt ≤ maxExitCode then .ok code.toInt.toNat
      else .error (.value (.exitCode code))
  | other => .error (.kinds (.exitCode other.kind))

namespace Action

/-- Push the value of the symbol in a slot. -/
def pushSymbol (instruction : Instruction) (slot : Nat) : Action Unit := do
  push (← symbolValue instruction slot)

/-- Pop two values and jump if they are equal, or if they are not.  The label must
exist in either case. -/
def jumpIf (program : Program) (instruction : Instruction) (equal : Bool) :
    Action Transfer := do
  let label ← require (instruction.labelAt 0)
  if program.labels.contains label then
    let right ← pop
    let left ← pop
    if (← require (equals left right)) == equal then pure (.toLabel label) else pure .next
  else throw (.undefinedLabel label)

/-- Execute an instruction that plays the given role. -/
def execute (site : Site) (instruction : Instruction) : Role → Action Transfer
  | .move => do
      let value ← symbolValue instruction 1
      assignAt instruction 0 value
      pure .next
  | .createFrame => do
      onFrames fun frames => .ok () frames.create
      pure .next
  | .pushFrame => do
      onFrames FrameStore.push
      pure .next
  | .popFrame => do
      onFrames FrameStore.pop
      pure .next
  | .define => do
      let v ← require (instruction.varAt 0)
      onFrames fun frames => frames.define v
      pure .next
  | .call => do
      let label ← require (instruction.labelAt 0)
      pushCall (site.position + 1)
      pure (.toLabel label)
  | .ret => do
      pure (.toPosition (← popCall))
  | .push => do
      pushSymbol instruction 0
      pure .next
  | .pop => do
      let value ← pop
      assignAt instruction 0 value
      pure .next
  | .clear => do
      clear
      pure .next
  | .binaryInto operation => do
      pushSymbol instruction 1
      pushSymbol instruction 2
      binary operation
      let result ← pop
      assignAt instruction 0 result
      pure .next
  | .unaryInto operation => do
      pushSymbol instruction 1
      unary operation
      let result ← pop
      assignAt instruction 0 result
      pure .next
  | .binaryOnStack operation => do
      binary operation
      pure .next
  | .unaryOnStack operation => do
      unary operation
      pure .next
  | .read => do
      let type ← require (instruction.typeAt 1)
      let line ← takeLine
      assignAt instruction 0 (InputStream.valueOfLine type line)
      pure .next
  | .write => do
      let value ← symbolValue instruction 0
      write value.output
      pure .next
  | .replaceChar => do
      let v ← require (instruction.varAt 0)
      let target ← valueOf (.var v)
      let index ← symbolValue instruction 1
      let source ← symbolValue instruction 2
      let result ← require (replaceChar target index source)
      onFrames fun frames => frames.assign v result
      pure .next
  | .kindOf => do
      let value ← peekAt (← require (instruction.symbolAt 1))
      assignAt instruction 0 (.string value.kind.name)
      pure .next
  | .label => pure .next
  | .jump => do
      pure (.toLabel (← require (instruction.labelAt 0)))
  | .jumpIf equal => do
      pushSymbol instruction 1
      pushSymbol instruction 2
      jumpIf site.program instruction equal
  | .jumpIfOnStack equal => jumpIf site.program instruction equal
  | .exit => do
      let value ← symbolValue instruction 0
      pure (.halt (← require (exitCodeOf value)))
  | .debugPrint => do
      let value ← symbolValue instruction 0
      if site.debugOutput then writeDiagnostic value.output
      pure .next
  | .debugBreak => do
      if site.debugOutput then
        writeDiagnostic ((← get).dump site.program site.position site.executed)
      pure .next

end Action
end FrameMachine
