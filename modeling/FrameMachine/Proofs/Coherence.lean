import FrameMachine.Proofs.Footprint
import FrameMachine.Proofs.Step
import Mathlib.Data.Nat.Count

namespace FrameMachine

/-!
# Positions, return addresses and counters

A machine carries positions of its program in several places: where it is running, where
calls return to, where a fault happened and what was executed last.  In every run of any
program, checked or not, they stay coherent with the program.  The run never reaches a
position without instruction, because control is passed only to a position inside the
program, and otherwise the machine halts.
-/

/-- A place that a call returns to: the position behind a call. -/
structure Program.IsReturnAddress (program : Program) (address : Nat) : Prop where
  positive : 1 ≤ address
  bound : address ≤ program.size
  call : ∃ instruction, program.at? (address - 1) = some instruction ∧ instruction.opcode = .call

/-- A location that names an instruction of the program with its own order number and
opcode. -/
structure Program.Locates (program : Program) (location : Location) : Prop where
  bound : location.position < program.size
  instruction : ∃ instruction, program.at? location.position = some instruction ∧
    location.order = instruction.order ∧ location.opcode = instruction.opcode

variable {program : Program} {position : Nat} {instruction : Instruction}

theorem Program.lt_size_of_at? (fetched : program.at? position = some instruction) :
    position < program.size :=
  (List.getElem?_eq_some_iff.mp fetched).1

theorem Program.locates_locationAt (fetched : program.at? position = some instruction) :
    program.Locates (instruction.locationAt position) :=
  ⟨lt_size_of_at? fetched, instruction, fetched, rfl, rfl⟩

theorem Program.isReturnAddress_succ (fetched : program.at? position = some instruction)
    (called : instruction.opcode = .call) : program.IsReturnAddress (position + 1) :=
  ⟨Nat.le_add_left 1 position, lt_size_of_at? fetched, instruction, fetched, called⟩

theorem Opcode.eq_call_of_role {opcode : Opcode} (played : opcode.role = .call) :
    opcode = .call := by
  cases opcode <;> cases played
  rfl

namespace Role

variable {before after : List Nat} {control : Transfer} {role : Role}

/-- Return addresses come from calls only. -/
theorem CallEffect.mem_calls
    (effect : role.CallEffect instruction position before after control) {address : Nat}
    (member : address ∈ after) :
    address ∈ before ∨ role = .call ∧ address = position + 1 := by
  cases role with
  | call =>
      obtain ⟨pushed, -⟩ := effect
      rw [pushed] at member
      rcases List.mem_cons.mp member with new | old
      · exact Or.inr ⟨rfl, new⟩
      · exact Or.inl old
  | ret =>
      obtain ⟨target, popped, -⟩ := effect
      rw [popped]
      exact Or.inl (List.mem_cons_of_mem target member)
  | _ =>
      obtain ⟨same, -⟩ := effect
      exact Or.inl (same ▸ member)

/-- A machine is halted only with an exit code. -/
theorem CallEffect.code_le {code : Nat}
    (effect : role.CallEffect instruction position before after (.halt code)) :
    code ≤ maxExitCode := by
  cases role with
  | exit =>
      obtain ⟨-, asked, bound, equal⟩ := effect
      cases equal
      exact bound
  | _ => simp [CallEffect] at effect

end Role

namespace Machine

/-- What every run keeps. -/
structure Coherent (machine : Machine) : Prop where
  running : ∀ position, machine.status = .running position → position < machine.program.size
  calls : ∀ address ∈ machine.state.calls, machine.program.IsReturnAddress address
  halted : ∀ code, machine.status = .halted code → code ≤ maxExitCode
  faulted : ∀ fault, machine.status = .faulted fault → machine.last = some fault.location
  last : ∀ location, machine.last = some location → machine.program.Locates location

/-- Passing control keeps to the program. -/
theorem continueAt_running {target : Nat}
    (continued : continueAt program target = .running position) : position < program.size := by
  unfold continueAt at continued
  by_cases within : target < program.size
  · rw [if_pos within] at continued
    cases continued
    exact within
  · rw [if_neg within] at continued
    cases continued

theorem continueAt_halted {target code : Nat}
    (continued : continueAt program target = .halted code) : code = 0 := by
  unfold continueAt at continued
  split at continued <;> cases continued
  rfl

theorem coherent_start (program : Program) (input : InputStream)
    (output diagnostics : OutputStream) (debugOutput : Bool) (profile : Option Profile) :
    (start program input output diagnostics debugOutput profile).Coherent where
  running _ running := continueAt_running running
  calls _ member := absurd member List.not_mem_nil
  halted _ halted := (continueAt_halted halted).symm ▸ Nat.zero_le maxExitCode
  faulted fault faulted := absurd faulted (continueAt_ne_faulted program 0 fault)
  last _ located := nomatch located

variable {machine : Machine}

/-- A coherent machine finds an instruction where it is running. -/
theorem Coherent.at?_ne_none (coherent : machine.Coherent)
    (running : machine.status = .running position) : machine.program.at? position ≠ none := by
  intro missing
  have bound := coherent.running position running
  have beyond := List.getElem?_eq_none_iff.mp missing
  exact absurd bound (Nat.not_lt_of_le beyond)

/-- The machine after a failed instruction depends on the call stack only. -/
theorem coherent_fail {location : Location} (located : machine.program.Locates location)
    {after : State} (calls : ∀ address ∈ after.calls, machine.program.IsReturnAddress address)
    (error : Error) : ((machine.count location).fail after ⟨location, error⟩).Coherent where
  running _ running := nomatch running
  calls := calls
  halted _ halted := nomatch halted
  faulted fault faulted := by
    cases faulted
    rfl
  last other executed := by
    cases executed
    exact located

/-- The machine after an instruction that passed control. -/
theorem coherent_succeed {location : Location} (located : machine.program.Locates location)
    {after : State} (calls : ∀ address ∈ after.calls, machine.program.IsReturnAddress address)
    {control : Transfer} {status : Status}
    (passes : transfer machine.program location.position control = .ok status)
    (bounded : ∀ code, control = .halt code → code ≤ maxExitCode) :
    ((machine.count location).succeed after status).Coherent where
  running target running := by
    change status = .running target at running
    rcases transfer_eq_ok passes with ⟨next, continued⟩ | ⟨code, -, halted⟩
    · exact continueAt_running (continued.symm.trans running)
    · cases halted.symm.trans running
  calls := calls
  halted code halted := by
    change status = .halted code at halted
    rcases transfer_eq_ok passes with ⟨next, continued⟩ | ⟨asked, control, equal⟩
    · rw [continueAt_halted (continued.symm.trans halted)]
      exact Nat.zero_le maxExitCode
    · cases equal.symm.trans halted
      exact bounded code control
  faulted fault faulted := absurd faulted (transfer_ne_faulted passes fault)
  last other executed := by
    cases executed
    exact located

theorem Coherent.step (before : machine.Coherent) : machine.step.Coherent := by
  apply step_rule (motive := Coherent)
  · intro _
    exact before
  · intro position running missing
    exact absurd missing (before.at?_ne_none running)
  · intro position instruction running fetched
    have located := Program.locates_locationAt fetched
    have execution := Action.ensures_execute_calls (machine.siteAt position) instruction
      instruction.opcode.role machine.state
    rw [ensures_perform]
    refine execution.imp ?_ ?_
    · intro control after effect
      have calls : ∀ address ∈ after.calls, machine.program.IsReturnAddress address := by
        intro address member
        rcases effect.mem_calls member with old | ⟨played, new⟩
        · exact before.calls address old
        · rw [new]
          exact Program.isReturnAddress_succ fetched (Opcode.eq_call_of_role played)
      constructor
      · intro status passes
        refine coherent_succeed located calls passes fun code halts => ?_
        rw [halts] at effect
        exact effect.code_le
      · intro error _
        -- A call of a missing label leaves its return address behind, and that is one.
        exact coherent_fail located calls error
    · intro error after same
      exact coherent_fail located (same ▸ before.calls) error

theorem Coherent.iterate (before : machine.Coherent) (count : Nat) :
    (Machine.step^[count] machine).Coherent :=
  Function.Iterate.rec Coherent before (fun _ => Coherent.step) count

/-- A step counts exactly if the machine is running. -/
theorem Coherent.executed_step (before : machine.Coherent) :
    machine.step.executed =
      machine.executed + if machine.status.isRunning = true then 1 else 0 := by
  apply step_rule (motive := fun after =>
    after.executed = machine.executed + if machine.status.isRunning = true then 1 else 0)
  · intro stopped
    simp [stopped]
  · intro position running missing
    exact absurd missing (before.at?_ne_none running)
  · intro position instruction running _
    rw [running]
    unfold Action.Ensures
    split <;> rfl

/-- The counter counts the steps that were taken while running. -/
theorem Coherent.executed_iterate (before : machine.Coherent) (count : Nat) :
    (Machine.step^[count] machine).executed = machine.executed +
      Nat.count (fun index => (Machine.step^[index] machine).status.isRunning = true) count := by
  induction count with
  | zero => rfl
  | succ count inductionHypothesis =>
      rw [Function.iterate_succ_apply', (before.iterate count).executed_step, inductionHypothesis,
        Nat.count_succ, Nat.add_assoc]

/-- In every state that a run of any program reaches, the positions the machine carries
belong to the program.  It is running at an instruction, every return address stands
behind a call, and a fault and the last executed instruction are located where they are
with their own order number and opcode.  The machine halts with an exit code.  The counter
is the number of steps taken while running.  Once the machine has stopped, further steps
change nothing and give the same answer. -/
theorem reachable_machine_coherent (program : Program) (input : InputStream)
    (output diagnostics : OutputStream) (debugOutput : Bool) (profile : Option Profile)
    (count : Nat) :
    let initial := start program input output diagnostics debugOutput profile
    let machine := step^[count] initial
    (∀ position, machine.status = .running position → position < program.size) ∧
    (∀ address ∈ machine.state.calls, program.IsReturnAddress address) ∧
    (∀ code, machine.status = .halted code → code ≤ 49) ∧
    (∀ fault, machine.status = .faulted fault →
      program.Locates fault.location ∧ machine.last = some fault.location) ∧
    (∀ location, machine.last = some location → program.Locates location) ∧
    machine.executed =
      Nat.count (fun index => (step^[index] initial).status.isRunning = true) count ∧
    (machine.status.isRunning = false → ∀ later, step^[later] machine = machine ∧
      (step^[later] machine).step.status.answer = machine.status.answer) := by
  intro initial machine
  have atStart : initial.Coherent :=
    coherent_start program input output diagnostics debugOutput profile
  have coherent : machine.Coherent := atStart.iterate count
  have sameProgram : machine.program = program := (iterate_program count initial).1
  have executed := atStart.executed_iterate count
  refine ⟨?_, ?_, coherent.halted, ?_, ?_, ?_, ?_⟩
  · exact sameProgram ▸ coherent.running
  · exact sameProgram ▸ coherent.calls
  · intro fault faulted
    have last := coherent.faulted fault faulted
    exact ⟨sameProgram ▸ coherent.last fault.location last, last⟩
  · exact sameProgram ▸ coherent.last
  · exact executed.trans (Nat.zero_add _)
  · intro stopped later
    have fixed := iterate_of_not_running stopped later
    rw [fixed, step_of_not_running stopped]
    exact ⟨rfl, rfl⟩

end Machine
end FrameMachine
