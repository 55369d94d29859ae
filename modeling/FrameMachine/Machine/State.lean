import FrameMachine.Frame
import FrameMachine.Operation.Apply
import FrameMachine.Program
import FrameMachine.Stream

namespace FrameMachine

/-!
# The state that instructions work on

Instructions change frames, the operand stack, the call stack and the streams.
An `Action` is a change that may fail; what it did before it failed stays done,
which is how a fault leaves operands popped or a return address pushed.
-/

/-- Frames, stacks and streams.  The top of each stack comes first. -/
structure State where
  frames : FrameStore
  operands : List Value
  calls : List Nat
  input : InputStream
  output : OutputStream
  diagnostics : OutputStream
deriving DecidableEq

/-- The state at the start of a run with the given streams. -/
def State.initial (input : InputStream) (output diagnostics : OutputStream) : State :=
  ⟨.initial, [], [], input, output, diagnostics⟩

/-- A change of the state that may fail and keeps what it did before. -/
abbrev Action (α : Type) : Type :=
  EStateM Error State α

namespace Action

/-- Fail unless there is a result. -/
def require {α : Type} : Except Error α → Action α
  | .ok value => pure value
  | .error error => throw error

/-- Change the frames. -/
def onFrames (change : FrameStore → FrameStore.Change) : Action Unit := fun state =>
  match change state.frames with
  | .ok () frames => .ok () { state with frames := frames }
  | .error error frames => .error error { state with frames := frames }

/-- Push a value onto the operand stack. -/
def push (value : Value) : Action Unit :=
  modify fun state => { state with operands := value :: state.operands }

/-- Pop a value from the operand stack. -/
def pop : Action Value := do
  let state ← get
  match state.operands with
  | value :: rest =>
      set { state with operands := rest }
      pure value
  | [] => throw .emptyOperandStack

/-- Empty the operand stack. -/
def clear : Action Unit :=
  modify fun state => { state with operands := [] }

/-- Push a return address onto the call stack. -/
def pushCall (position : Nat) : Action Unit :=
  modify fun state => { state with calls := position :: state.calls }

/-- Pop a return address from the call stack. -/
def popCall : Action Nat := do
  let state ← get
  match state.calls with
  | position :: rest =>
      set { state with calls := rest }
      pure position
  | [] => throw .emptyCallStack

/-- Replace the two topmost values, of which the right operand is on top, by the
result of an operation. -/
def binary (operation : BinaryOperation) : Action Unit := do
  let right ← pop
  let left ← pop
  let result ← require (operation.apply left right)
  push result

/-- Replace the topmost value by the result of an operation. -/
def unary (operation : UnaryOperation) : Action Unit := do
  let operand ← pop
  let result ← require (operation.apply operand)
  push result

/-- The value of a symbol. -/
def valueOf : Symbol → Action Value
  | .var v => do require ((← get).frames.read v)
  | .literal value => pure value

/-- The value of a symbol, which may be the placeholder. -/
def peekAt : Symbol → Action Value
  | .var v => do require ((← get).frames.peek v)
  | .literal value => pure value

/-- The value of the symbol in a slot. -/
def symbolValue (instruction : Instruction) (slot : Nat) : Action Value := do
  valueOf (← require (instruction.symbolAt slot))

/-- Give the variable in a slot a value. -/
def assignAt (instruction : Instruction) (slot : Nat) (value : Value) : Action Unit := do
  let v ← require (instruction.varAt slot)
  onFrames fun frames => frames.assign v value

/-- Write a text to the output stream. -/
def write (text : String) : Action Unit := do
  let state ← get
  match state.output.write text with
  | .ok output => set { state with output := output }
  | .error failure => throw (.stream failure)

/-- Write a text to the diagnostic stream. -/
def writeDiagnostic (text : String) : Action Unit := do
  let state ← get
  match state.diagnostics.write text with
  | .ok diagnostics => set { state with diagnostics := diagnostics }
  | .error failure => throw (.stream failure)

/-- Take a line with its line end from the input stream. -/
def takeLine : Action (List UInt8) := do
  let state ← get
  let (line, input) := state.input.takeLine
  set { state with input := input }
  match line with
  | .ok line => pure line
  | .error failure => throw (.stream failure)

end Action
end FrameMachine
