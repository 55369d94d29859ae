import FrameMachine.Machine.Run
import FrameMachine.Proofs.Action
import Mathlib.Logic.Function.Iterate

namespace FrameMachine

/-!
# Steps and runs

A step is an execution with bookkeeping around it.  `Machine.step_rule` reduces a
claim about the machine after a step to what the execution ensures, once for every
invariant of this library.  A run is a number of steps, the function `step` iterated:
steps of a machine that has stopped are allowed and change nothing, so the bounded
runs of `Machine.steps` are the same machines.
-/

/-- Where an instruction stands that is executed at a position. -/
def Instruction.locationAt (instruction : Instruction) (position : Nat) : Location :=
  ⟨position, instruction.order, instruction.opcode⟩

namespace Machine

/-- The machine at the start of a program, with its streams, whether debugging output
is wanted, and the statistics if they are kept. -/
def start (program : Program) (input : InputStream) (output diagnostics : OutputStream)
    (debugOutput : Bool) (profile : Option Profile) : Machine :=
  { load program (.initial input output diagnostics) with
    debugOutput := debugOutput
    profile := profile }

/-- What the instruction at a position sees of the machine. -/
def siteAt (machine : Machine) (position : Nat) : Site :=
  ⟨machine.program, position, machine.executed + 1, machine.debugOutput⟩

/-! ## Passing control -/

/-- Control is passed to a position, or the machine halts because that was asked for. -/
theorem transfer_eq_ok {program : Program} {position : Nat} {control : Transfer}
    {status : Status} (passed : transfer program position control = .ok status) :
    (∃ target, status = continueAt program target) ∨
      ∃ code, control = .halt code ∧ status = .halted code := by
  cases control with
  | next => exact Or.inl ⟨position + 1, (Except.ok.inj passed).symm⟩
  | toLabel name =>
      rw [transfer] at passed
      cases found : program.labels.resolve name with
      | error error => simp [found] at passed
      | ok target =>
          rw [found] at passed
          exact Or.inl ⟨target, (Except.ok.inj passed).symm⟩
  | toPosition target => exact Or.inl ⟨target, (Except.ok.inj passed).symm⟩
  | halt code => exact Or.inr ⟨code, rfl, (Except.ok.inj passed).symm⟩

/-- Passing control fails only for want of a label. -/
theorem transfer_eq_error {program : Program} {position : Nat} {control : Transfer}
    {error : Error} (failed : transfer program position control = .error error) :
    ∃ name, control = .toLabel name ∧ error = .undefinedLabel name := by
  cases control with
  | next => cases failed
  | toLabel name =>
      rw [transfer, LabelTable.resolve] at failed
      cases found : program.labels.find? name with
      | none =>
          rw [found] at failed
          exact ⟨name, rfl, (Except.error.inj failed).symm⟩
      | some target => simp [found] at failed
  | toPosition target => cases failed
  | halt code => cases failed

theorem continueAt_ne_faulted (program : Program) (position : Nat) (fault : Fault) :
    continueAt program position ≠ .faulted fault := by
  unfold continueAt
  split <;> simp

/-- Passing control never makes a fault. -/
theorem transfer_ne_faulted {program : Program} {position : Nat} {control : Transfer}
    {status : Status} (passed : transfer program position control = .ok status) (fault : Fault) :
    status ≠ .faulted fault := by
  rcases transfer_eq_ok passed with ⟨target, equal⟩ | ⟨code, -, equal⟩
  · rw [equal]
    exact continueAt_ne_faulted program target fault
  · simp [equal]

/-! ## One step -/

/-- Performing an instruction is executing it and then passing control. -/
theorem ensures_perform {site : Site} {instruction : Instruction} {state : State}
    {success : Status → State → Prop} {failure : Error → State → Prop} :
    Action.Ensures (perform site instruction) state success failure ↔
      Action.Ensures (Action.execute site instruction instruction.opcode.role) state
        (fun control after =>
          (∀ status, transfer site.program site.position control = .ok status →
            success status after) ∧
          (∀ error, transfer site.program site.position control = .error error →
            failure error after))
        failure := by
  unfold perform
  simp only [Action.ensures_bind, Action.ensures_require]

section Executed

variable {machine : Machine} {position : Nat} {instruction : Instruction} {after : State}

theorem executeAt_of_ok {status : Status}
    (performed : (perform (machine.siteAt position) instruction).run machine.state =
      .ok status after) :
    machine.executeAt position instruction =
      (machine.count (instruction.locationAt position)).succeed after status := by
  rw [siteAt] at performed
  simp only [executeAt, count, performed]
  rfl

theorem executeAt_of_error {error : Error}
    (failed : (perform (machine.siteAt position) instruction).run machine.state =
      .error error after) :
    machine.executeAt position instruction =
      (machine.count (instruction.locationAt position)).fail after
        ⟨instruction.locationAt position, error⟩ := by
  rw [siteAt] at failed
  simp only [executeAt, count, failed]
  rfl

/-- The machine after the execution of an instruction, seen through what performing
the instruction ensures. -/
theorem executeAt_iff_ensures {motive : Machine → Prop} :
    motive (machine.executeAt position instruction) ↔
      Action.Ensures (perform (machine.siteAt position) instruction) machine.state
        (fun status after =>
          motive ((machine.count (instruction.locationAt position)).succeed after status))
        (fun error after =>
          motive ((machine.count (instruction.locationAt position)).fail after
            ⟨instruction.locationAt position, error⟩)) := by
  unfold Action.Ensures
  cases ending : (perform (machine.siteAt position) instruction).run machine.state with
  | ok status after => rw [executeAt_of_ok ending]
  | error error after => rw [executeAt_of_error ending]

end Executed

/-- A machine that has stopped stays as it is. -/
theorem step_of_not_running {machine : Machine} (stopped : machine.status.isRunning = false) :
    machine.step = machine := by
  unfold step
  cases status : machine.status with
  | running position => simp [status, Status.isRunning] at stopped
  | halted code => rfl
  | faulted fault => rfl

theorem step_of_running {machine : Machine} {position : Nat} {instruction : Instruction}
    (running : machine.status = .running position)
    (fetched : machine.program.at? position = some instruction) :
    machine.step = machine.executeAt position instruction := by
  rw [step, running]
  simp only [fetched]

/-- What an execution ensures of the state in either case holds of the state after the
step. -/
theorem step_state {machine : Machine} {position : Nat} {instruction : Instruction}
    {motive : State → Prop} (running : machine.status = .running position)
    (fetched : machine.program.at? position = some instruction)
    (executed : Action.Ensures
      (Action.execute (machine.siteAt position) instruction instruction.opcode.role)
      machine.state (fun _ after => motive after) (fun _ after => motive after)) :
    motive machine.step.state := by
  rw [step_of_running running fetched]
  apply (executeAt_iff_ensures (motive := fun after => motive after.state)).mpr
  rw [ensures_perform]
  exact executed.imp (fun _ _ holds => ⟨fun _ _ => holds, fun _ _ => holds⟩)
    (fun _ _ holds => holds)

section Ending

variable {machine : Machine} {position : Nat} {instruction : Instruction} {fault : Fault}
  {success : Transfer → State → Prop} {failure : Error → State → Prop}

/-- A step that does not fault has a successful execution behind it, and its status is where
control was passed. -/
theorem transfer_rule (running : machine.status = .running position)
    (fetched : machine.program.at? position = some instruction)
    (execution : Action.Ensures
      (Action.execute (machine.siteAt position) instruction instruction.opcode.role)
      machine.state success failure)
    (unfaulted : ∀ fault, machine.step.status ≠ .faulted fault) :
    ∃ control, success control machine.step.state ∧
      transfer machine.program position control = .ok machine.step.status := by
  rw [step_of_running running fetched] at unfaulted ⊢
  revert unfaulted
  apply (executeAt_iff_ensures (motive := fun after =>
    (∀ fault, after.status ≠ .faulted fault) → ∃ control, success control after.state ∧
      transfer machine.program position control = .ok after.status)).mpr
  rw [ensures_perform]
  refine execution.imp ?_ ?_
  · intro control after holds
    constructor
    · intro status passed _
      exact ⟨control, holds, passed⟩
    · intro error _ unfaulted
      exact absurd rfl (unfaulted ⟨instruction.locationAt position, error⟩)
  · intro error after _ unfaulted
    exact absurd rfl (unfaulted ⟨instruction.locationAt position, error⟩)

theorem success_rule (running : machine.status = .running position)
    (fetched : machine.program.at? position = some instruction)
    (execution : Action.Ensures
      (Action.execute (machine.siteAt position) instruction instruction.opcode.role)
      machine.state success failure)
    (unfaulted : ∀ fault, machine.step.status ≠ .faulted fault) :
    ∃ control, success control machine.step.state := by
  rcases transfer_rule running fetched execution unfaulted with ⟨control, holds, -⟩
  exact ⟨control, holds⟩

/-- A faulting step has a failed execution, or a successful one that passes control to a
label which is not defined. -/
theorem fault_rule (running : machine.status = .running position)
    (fetched : machine.program.at? position = some instruction)
    (execution : Action.Ensures
      (Action.execute (machine.siteAt position) instruction instruction.opcode.role)
      machine.state success failure)
    (faulted : machine.step.status = .faulted fault) :
    failure fault.error machine.step.state ∨
      ∃ name, success (.toLabel name) machine.step.state ∧
        machine.program.labels.contains name = false := by
  rw [step_of_running running fetched] at faulted ⊢
  revert faulted
  apply (executeAt_iff_ensures (motive := fun after =>
    after.status = .faulted fault → failure fault.error after.state ∨
      ∃ name, success (.toLabel name) after.state ∧
        machine.program.labels.contains name = false)).mpr
  rw [ensures_perform]
  refine execution.imp ?_ ?_
  · intro control after holds
    constructor
    · intro status passes faulted
      exact absurd faulted (transfer_ne_faulted passes fault)
    · intro error failed _
      rcases transfer_eq_error failed with ⟨name, rfl, -⟩
      refine Or.inr ⟨name, holds, ?_⟩
      cases found : machine.program.labels.find? name with
      | none => rw [LabelTable.contains, found, Option.isSome_none]
      | some target => simp [transfer, siteAt, LabelTable.resolve, found] at failed
  · intro error after holds faulted
    cases faulted
    exact Or.inl holds

end Ending

/-- What holds after a step follows from what the executed instruction ensures.  The
other two cases are a machine that has stopped and a position without instruction. -/
theorem step_rule {machine : Machine} {motive : Machine → Prop}
    (stopped : machine.status.isRunning = false → motive machine)
    (ended : ∀ position, machine.status = .running position →
      machine.program.at? position = none → motive { machine with status := .halted 0 })
    (executed : ∀ position instruction, machine.status = .running position →
      machine.program.at? position = some instruction →
      Action.Ensures (perform (machine.siteAt position) instruction) machine.state
        (fun status after =>
          motive ((machine.count (instruction.locationAt position)).succeed after status))
        (fun error after =>
          motive ((machine.count (instruction.locationAt position)).fail after
            ⟨instruction.locationAt position, error⟩))) :
    motive machine.step := by
  cases status : machine.status with
  | running position =>
      cases fetched : machine.program.at? position with
      | none =>
          rw [step, status]
          simp only [fetched]
          exact ended position status fetched
      | some instruction =>
          rw [step_of_running status fetched]
          exact executeAt_iff_ensures.mpr (executed position instruction status fetched)
  | halted code =>
      have notRunning : machine.status.isRunning = false := status ▸ rfl
      rw [step_of_not_running notRunning]
      exact stopped notRunning
  | faulted fault =>
      have notRunning : machine.status.isRunning = false := status ▸ rfl
      rw [step_of_not_running notRunning]
      exact stopped notRunning

/-- Without an instruction to execute the state is left as it is. -/
theorem step_state_or_running (machine : Machine) :
    machine.step.state = machine.state ∨
      ∃ position instruction, machine.status = .running position ∧
        machine.program.at? position = some instruction := by
  cases status : machine.status with
  | running position =>
      cases fetched : machine.program.at? position with
      | none =>
          left
          rw [step, status]
          simp only [fetched]
      | some instruction => exact Or.inr ⟨position, instruction, rfl, fetched⟩
  | halted code =>
      left
      rw [step, status]
  | faulted fault =>
      left
      rw [step, status]

/-- A step changes neither the program nor the option. -/
theorem step_program (machine : Machine) :
    machine.step.program = machine.program ∧ machine.step.debugOutput = machine.debugOutput := by
  apply step_rule (motive := fun after =>
    after.program = machine.program ∧ after.debugOutput = machine.debugOutput)
  · intro _
    exact ⟨rfl, rfl⟩
  · intro _ _ _
    exact ⟨rfl, rfl⟩
  · intro position instruction _ _
    unfold Action.Ensures
    split <;> exact ⟨rfl, rfl⟩

/-! ## Any number of steps -/

/-- A machine that has stopped stays as it is, however often it is stepped. -/
theorem iterate_of_not_running {machine : Machine}
    (stopped : machine.status.isRunning = false) (count : Nat) :
    step^[count] machine = machine :=
  Function.iterate_fixed (step_of_not_running stopped) count

/-- Stopping early makes no difference. -/
theorem steps_eq_iterate (limit : Nat) (machine : Machine) :
    steps limit machine = step^[limit] machine := by
  induction limit generalizing machine with
  | zero => rfl
  | succ limit inductionHypothesis =>
      rw [steps]
      cases running : machine.status.isRunning with
      | false =>
          rw [iterate_of_not_running running]
          rfl
      | true =>
          rw [if_pos rfl, inductionHypothesis, Function.iterate_succ_apply]

/-- The program and the option are the same during a whole run. -/
theorem iterate_program (count : Nat) (machine : Machine) :
    (step^[count] machine).program = machine.program ∧
      (step^[count] machine).debugOutput = machine.debugOutput := by
  refine Function.Iterate.rec (fun after : Machine =>
    after.program = machine.program ∧ after.debugOutput = machine.debugOutput) ⟨rfl, rfl⟩ ?_ count
  intro after same
  exact ⟨(step_program after).1.trans same.1, (step_program after).2.trans same.2⟩

end Machine
end FrameMachine
