import FrameMachine.Machine.Execute
import FrameMachine.Profile

namespace FrameMachine

/-!
# The machine

A machine is running at a position, halted with a code or faulted.  One step
executes one instruction.  A machine that has stopped stays as it is.
-/

/-- Where an instruction stands: its position, its order number and its opcode. -/
structure Location where
  position : Nat
  order : Nat
  opcode : Opcode
deriving DecidableEq

/-- An error together with the instruction that raised it. -/
structure Fault where
  location : Location
  error : Error
deriving DecidableEq

namespace Fault

/-- The text of a fault. -/
def message (fault : Fault) : String :=
  fault.error.message ++ " (instruction " ++ toString fault.location.position ++
    ", order " ++ toString fault.location.order ++ ", " ++
    fault.location.opcode.mnemonic ++ ")"

/-- The exit code of a process that ends with this fault. -/
def exitCode (fault : Fault) : Nat :=
  fault.error.exitCode

end Fault

/-- What a machine is doing. -/
inductive Status where
  | running (position : Nat)
  | halted (code : Nat)
  | faulted (fault : Fault)
deriving DecidableEq

/-- Whether a machine in this status executes further instructions. -/
def Status.isRunning : Status → Bool
  | .running _ => true
  | _ => false

/-- The exit code of a process whose machine has stopped in this status. -/
def Status.exitCode : Status → Nat
  | .running _ => 0
  | .halted code => code
  | .faulted fault => fault.exitCode

/-- What a step that ends in this status answers: whether the machine is still running,
or the fault. -/
def Status.answer : Status → Except Fault Bool
  | .running _ => .ok true
  | .halted _ => .ok false
  | .faulted fault => .error fault

/-- A machine: the program, the state its instructions work on, and what is known
about the run. -/
structure Machine where
  program : Program
  state : State
  status : Status
  executed : Nat
  last : Option Location
  debugOutput : Bool
  profile : Option Profile
deriving DecidableEq

namespace Machine

/-- Running at a position, or halted if the program ends before it. -/
def continueAt (program : Program) (position : Nat) : Status :=
  if position < program.size then .running position else .halted 0

/-- The machine at the start of a program. -/
def load (program : Program) (state : State) : Machine where
  program := program
  state := state
  status := continueAt program 0
  executed := 0
  last := none
  debugOutput := true
  profile := none

/-- The machine with a profile, which is empty if there was none. -/
def enableProfile (machine : Machine) : Machine :=
  { machine with profile := some (machine.profile.getD .empty) }

/-- The status after an instruction at a position has passed control. -/
def transfer (program : Program) (position : Nat) : Transfer → Except Error Status
  | .next => .ok (continueAt program (position + 1))
  | .toLabel name =>
      match program.labels.resolve name with
      | .ok target => .ok (continueAt program target)
      | .error error => .error error
  | .toPosition target => .ok (continueAt program target)
  | .halt code => .ok (.halted code)

/-- Execute an instruction and pass control. -/
def perform (site : Site) (instruction : Instruction) : Action Status := do
  let control ← Action.execute site instruction instruction.opcode.role
  Action.require (transfer site.program site.position control)

/-- The machine with an instruction at a position counted as executed. -/
def count (machine : Machine) (location : Location) : Machine :=
  { machine with
    executed := machine.executed + 1
    last := some location
    profile := machine.profile.map fun profile => profile.record location.opcode }

/-- The machine after the successful execution of an instruction. -/
def succeed (machine : Machine) (state : State) (status : Status) : Machine :=
  { machine with
    state := state
    status := status
    profile := machine.profile.map fun profile =>
      profile.noteDepths state.operands.length state.frames.depth }

/-- The machine after an instruction has failed. -/
def fail (machine : Machine) (state : State) (fault : Fault) : Machine :=
  { machine with state := state, status := .faulted fault }

/-- Execute the instruction at a position. -/
def executeAt (machine : Machine) (position : Nat) (instruction : Instruction) : Machine :=
  let location : Location := ⟨position, instruction.order, instruction.opcode⟩
  let counted := machine.count location
  let site : Site := ⟨machine.program, position, counted.executed, machine.debugOutput⟩
  match (perform site instruction).run machine.state with
  | .ok status state => counted.succeed state status
  | .error error state => counted.fail state ⟨location, error⟩

/-- Execute one instruction, if the machine is running. -/
def step (machine : Machine) : Machine :=
  match machine.status with
  | .running position =>
      match machine.program.at? position with
      | some instruction => machine.executeAt position instruction
      | none => { machine with status := .halted 0 }
  | _ => machine

end Machine
end FrameMachine
