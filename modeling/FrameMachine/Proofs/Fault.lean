import FrameMachine.Proofs.Nesting

namespace FrameMachine

/-!
# What a fault leaves behind

An instruction that fails has done part of its work already: operands were pushed for an
operation that then refuses them, a value was popped for a destination that does not exist,
a line was read, a return address was pushed for a label that is nowhere.  All of this
happens on the stacks and in the input.  The frames are changed by the last act of an
instruction, if at all, and so is an output stream.  A fault therefore leaves the variables
as they were and adds nothing to what was written.

A step can fault in two ways.  The execution of its instruction fails, or the execution
succeeds and control cannot be passed because the label is not defined.  The second way is
open only to instructions that pass control to a label, and these do not touch the frames.
-/

namespace Role

/-- Whether the role can pass control to a label. -/
def passesToLabel : Role → Bool
  | .call | .jump | .jumpIf _ | .jumpIfOnStack _ => true
  | _ => false

variable {role : Role} {instruction : Instruction}

/-- Control is passed to a label only by a role that can, and to the label in its first
slot. -/
theorem CallEffect.toLabel {position : Nat} {before after : List Nat} {name : String}
    (effect : role.CallEffect instruction position before after (.toLabel name)) :
    role.passesToLabel = true ∧ instruction.labelAt 0 = .ok name := by
  cases role with
  | call | jump =>
      rcases effect with ⟨-, label, found, same⟩
      cases same
      exact ⟨rfl, found⟩
  | jumpIf | jumpIfOnStack =>
      rcases effect with ⟨-, different | ⟨label, found, same⟩⟩
      · cases different
      · cases same
        exact ⟨rfl, found⟩
  | ret =>
      rcases effect with ⟨target, -, different⟩
      cases different
  | exit =>
      rcases effect with ⟨-, code, -, different⟩
      cases different
  | _ => cases effect.2

end Role

/-- What a fault spares: the frames, what was written, and the lower part of the operand
stack. -/
structure State.Spares (before after : State) : Prop where
  frames : after.frames = before.frames
  output : after.output = before.output
  diagnostics : after.diagnostics = before.diagnostics
  operands : Unsettled before.operands after.operands

theorem State.spares_refl (state : State) : state.Spares state :=
  ⟨rfl, rfl, rfl, Unsettled.refl state.operands⟩

/-- A role that passes control to a label has no effect on the frames and on the streams. -/
theorem Role.spares_of_passesToLabel {role : Role} (passes : role.passesToLabel = true)
    {policy : Policy} {site : Site} {instruction : Instruction} {before after : State}
    (frames : role.FrameEffect policy instruction before.frames after.frames)
    (output : role.OutputEffect instruction before after)
    (diagnostics : role.DiagnosticEffect site instruction before after)
    (operands : role.OperandEffect instruction before after) : before.Spares after := by
  cases role with
  | call | jump | jumpIf =>
      have same : after.operands = before.operands := operands
      exact ⟨frames, output, diagnostics, same ▸ Unsettled.refl before.operands⟩
  | jumpIfOnStack =>
      rcases operands with ⟨right, left, popped⟩
      exact ⟨frames, output, diagnostics, popped ▸ Unsettled.two_less left right after.operands⟩
  | _ => cases passes

namespace Machine

variable {machine : Machine} {position : Nat} {instruction : Instruction} {fault : Fault}

/-- The next step calls a label that the program does not have. -/
def CallsUndefined (machine : Machine) (position : Nat) : Prop :=
  machine.status = .running position ∧ ∃ instruction name,
    machine.program.at? position = some instruction ∧ instruction.opcode = .call ∧
      instruction.labelAt 0 = .ok name ∧ machine.program.labels.contains name = false

/-- A call that finds its label operand pushes the return address, whether or not the label
is defined. -/
theorem calls_of_call {name : String} (running : machine.status = .running position)
    (fetched : machine.program.at? position = some instruction)
    (called : instruction.opcode = .call) (named : instruction.labelAt 0 = .ok name) :
    machine.step.state.calls = (position + 1) :: machine.state.calls := by
  apply step_state (motive := fun after => after.calls = (position + 1) :: machine.state.calls)
    running fetched
  rw [called]
  simp [Opcode.role, Action.execute, Action.ensures_bind, Action.ensures_require, named,
    Action.ensures_map, Action.ensures_pushCall, siteAt]

/-- Only a read takes from the input. -/
theorem step_input (running : machine.status = .running position)
    (fetched : machine.program.at? position = some instruction) :
    machine.step.state.input = machine.state.input ∨ instruction.opcode.role = .read ∧
      machine.step.state.input = machine.state.input.takeLine.2 := by
  have effect := Action.ensures_execute_input (machine.siteAt position) instruction
    instruction.opcode.role machine.state
  exact step_state running fetched
    (effect.imp (fun _ _ taken => taken.changed) fun _ _ taken => taken)

theorem spares_of_fault (running : machine.status = .running position)
    (fetched : machine.program.at? position = some instruction)
    (faulted : machine.step.status = .faulted fault) :
    machine.state.Spares machine.step.state := by
  have onFrames := (Policy.permissive_governs instruction machine.state).allows_execute
    (machine.siteAt position) rfl machine.state ⟨rfl, rfl, fun _ _ => trivial⟩
  have onCalls := Action.ensures_execute_calls (machine.siteAt position) instruction
    instruction.opcode.role machine.state
  have onOutput := Action.ensures_execute_output (machine.siteAt position) instruction
    instruction.opcode.role machine.state
  have onDiagnostics := Action.ensures_execute_diagnostics (machine.siteAt position) instruction
    instruction.opcode.role machine.state
  have onOperands := Action.ensures_execute_operands (machine.siteAt position) instruction
    instruction.opcode.role machine.state
  have execution := (onFrames.and onCalls).and (onOutput.and (onDiagnostics.and onOperands))
  rcases fault_rule running fetched execution faulted with failed | ⟨name, passed, -⟩
  · rcases failed with ⟨⟨⟨kept, -⟩, -⟩, output, diagnostics, operands⟩
    exact ⟨kept.frames, output, diagnostics, operands⟩
  · rcases passed with ⟨⟨⟨kept, -⟩, calls⟩, output, diagnostics, operands⟩
    exact Role.spares_of_passesToLabel calls.toLabel.1 kept.frames output diagnostics operands

/-- The call stack after a fault. -/
theorem calls_of_fault (running : machine.status = .running position)
    (fetched : machine.program.at? position = some instruction)
    (faulted : machine.step.status = .faulted fault)
    (defined : ¬machine.CallsUndefined position) :
    machine.step.state.calls = machine.state.calls := by
  have onCalls := Action.ensures_execute_calls (machine.siteAt position) instruction
    instruction.opcode.role machine.state
  rcases fault_rule running fetched onCalls faulted with same | ⟨name, effect, missing⟩
  · exact same
  · have named := effect.toLabel.2
    have passes := effect.toLabel.1
    cases played : instruction.opcode.role with
    | call =>
        have called : instruction.opcode = .call := Opcode.role_injective played
        exact absurd ⟨running, instruction, name, fetched, called, named, missing⟩ defined
    | jump | jumpIf | jumpIfOnStack =>
        rw [played] at effect
        exact effect.1
    | _ =>
        rw [played] at passes
        cases passes

/-- A fault leaves memory intact.  When a step of any machine ends with a fault, whatever the
program and its instructions are, all frames with all their variables are what they were
before the step, and nothing was written to either output stream.  Input is consumed by no
instruction but a read, and then it is one line.  The call stack is the same, except that the
call of a label which is not defined leaves its return address behind.  On the operand stack
everything below the two topmost values is still in its place, and the stack has grown by at
most two values. -/
theorem fault_leaves_memory_intact {machine : Machine} {fault : Fault}
    (faulted : machine.step.status = .faulted fault) :
    machine.step.state.frames = machine.state.frames ∧
    machine.step.state.output = machine.state.output ∧
    machine.step.state.diagnostics = machine.state.diagnostics ∧
    (machine.step.state.input = machine.state.input ∨
      (∃ position, machine.Executes position .read) ∧
        machine.step.state.input = machine.state.input.takeLine.2) ∧
    (∀ position, machine.CallsUndefined position →
      machine.step.state.calls = (position + 1) :: machine.state.calls) ∧
    ((∀ position, ¬machine.CallsUndefined position) →
      machine.step.state.calls = machine.state.calls) ∧
    machine.state.operands.drop 2 <:+ machine.step.state.operands ∧
    machine.step.state.operands.length ≤ machine.state.operands.length + 2 := by
  have pushed : ∀ position, machine.CallsUndefined position →
      machine.step.state.calls = (position + 1) :: machine.state.calls := by
    rintro position ⟨running, instruction, name, fetched, called, named, -⟩
    exact calls_of_call running fetched called named
  have spared : machine.state.Spares machine.step.state := by
    rcases step_state_or_running machine with same | ⟨position, instruction, running, fetched⟩
    · exact same ▸ State.spares_refl machine.state
    · exact spares_of_fault running fetched faulted
  refine ⟨spared.frames, spared.output, spared.diagnostics, ?_, pushed, ?_,
    spared.operands.suffix, spared.operands.length_le⟩
  · rcases step_state_or_running machine with same | ⟨position, instruction, running, fetched⟩
    · exact Or.inl (congrArg State.input same)
    · refine (step_input running fetched).imp_right fun ⟨reads, taken⟩ => ⟨⟨position, ?_⟩, taken⟩
      exact ⟨running, instruction, fetched, Opcode.role_injective reads⟩
  · intro defined
    rcases step_state_or_running machine with same | ⟨position, instruction, running, fetched⟩
    · exact congrArg State.calls same
    · exact calls_of_fault running fetched faulted (defined position)

/-- The call of a label that is nowhere, with a variable defined and a value on the operand
stack.  Only the return address is left behind. -/
theorem fault_leaves_memory_intact_undefined_call :
    let program : Program :=
      ⟨[⟨1, .defVar, [.var ⟨.global, "x"⟩]⟩, ⟨2, .pushs, [.literal (.int 7)]⟩,
        ⟨3, .call, [.label "nowhere"]⟩], .empty⟩
    let machine := step^[2] (start program (.ofBytes []) .unlimited .unlimited true none)
    machine.step.status = .faulted ⟨⟨2, 3, .call⟩, .undefinedLabel "nowhere"⟩ ∧
      machine.CallsUndefined 2 ∧
      machine.step.state.frames = ⟨⟨[("x", ⟨"x", .uninitialized⟩)]⟩, [], none⟩ ∧
      machine.step.state.calls = [3] ∧ machine.step.state.operands.length ≤ 3 := by
  intro program machine
  have faulted : machine.step.status = .faulted ⟨⟨2, 3, .call⟩, .undefinedLabel "nowhere"⟩ := by
    decide +kernel
  have undefined : machine.CallsUndefined 2 := ⟨rfl, _, "nowhere", rfl, rfl, rfl, rfl⟩
  rcases fault_leaves_memory_intact faulted with
    ⟨frames, -, -, -, pushed, -, -, bounded⟩
  exact ⟨faulted, undefined, frames, pushed 2 undefined, bounded⟩

end Machine
end FrameMachine
