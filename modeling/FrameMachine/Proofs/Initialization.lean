import FrameMachine.Proofs.Effect
import FrameMachine.Proofs.Footprint
import FrameMachine.Proofs.Frames
import FrameMachine.Proofs.Step

namespace FrameMachine

/-!
# The placeholder stays where it is

A variable that was defined but never assigned holds a placeholder.  In the run of a
checked program the placeholder is never copied: it does not reach the operand stack, it
is not assigned and it is not written.  So a variable loses its value only together with
its frame, and a variable of the global frame keeps one to the end of the run.

The walk through all roles under `Policy.initialized` is the whole argument for a single
step.  What remains is to follow the frames and the streams along a run.
-/

namespace Role

/-- Whether the role moves a frame, so that other variables are named by a scope. -/
def movesFrame : Role → Bool
  | .createFrame | .pushFrame | .popFrame => true
  | _ => false

/-- Under an effect that assigns only values, a variable stays readable unless its frame
is moved. -/
theorem FrameEffect.readable {role : Role} {instruction : Instruction}
    {before after : FrameStore} (effect : role.FrameEffect .initialized instruction before after)
    {v : Variable} (stays : v.scope = .global ∨ role.movesFrame = false)
    (readable : before.Readable v) : after.Readable v := by
  -- The global frame is never moved, so only its variables are in question here.
  have whenMoved (moves : role.movesFrame = true) (same : after.global = before.global) :
      after.Readable v := by
    rcases stays with scope | stays
    · exact readable.of_global scope same
    · rw [moves] at stays
      cases stays
  cases role with
  | createFrame =>
      have created : after = before.create := effect
      refine whenMoved rfl ?_
      rw [created, FrameStore.create]
  | pushFrame => exact whenMoved rfl (FrameStore.push_global effect)
  | popFrame => exact whenMoved rfl (FrameStore.pop_global effect)
  | define =>
      obtain ⟨u, -, defined⟩ := effect
      exact readable.define defined
  | move | pop | binaryInto | unaryInto | read | replaceChar | kindOf =>
      obtain ⟨u, value, -, initialized, assigned⟩ := effect
      exact readable.assign initialized assigned
  | _ => exact effect ▸ readable

end Role

namespace Machine

/-- What the run of a checked program keeps: every value on the operand stack is one. -/
structure Initialized (machine : Machine) : Prop where
  checked : machine.program.IsChecked
  operands : ∀ value ∈ machine.state.operands, value.isInitialized = true

variable {machine : Machine}

/-- An execution puts no placeholder on the operand stack, and it changes the frames at
most by the effect of the instruction. -/
theorem Initialized.effect_step (before : machine.Initialized) {position : Nat}
    {instruction : Instruction} (running : machine.status = .running position)
    (fetched : machine.program.at? position = some instruction) :
    (∀ value ∈ machine.step.state.operands, value.isInitialized = true) ∧
      (machine.step.state.frames = machine.state.frames ∨
        instruction.opcode.role.FrameEffect .initialized instruction machine.state.frames
          machine.step.state.frames) := by
  have passed : instruction.IsChecked :=
    before.checked instruction (List.mem_of_getElem? fetched)
  have execution := (Policy.initialized_governs passed machine.state).allows_execute
    (machine.siteAt position) rfl machine.state ⟨rfl, rfl, before.operands⟩
  refine step_state (motive := fun after =>
    (∀ value ∈ after.operands, value.isInitialized = true) ∧
      (after.frames = machine.state.frames ∨
        instruction.opcode.role.FrameEffect .initialized instruction machine.state.frames
          after.frames)) running fetched (execution.imp ?_ ?_)
  · intro control after ⟨holds, _⟩
    exact ⟨holds.operands, Or.inr holds.frames⟩
  · intro error after ⟨holds, _⟩
    exact ⟨holds.operands, Or.inl holds.frames⟩

theorem Initialized.step (before : machine.Initialized) : machine.step.Initialized where
  checked := (step_program machine).1.symm ▸ before.checked
  operands := by
    rcases step_state_or_running machine with same | ⟨position, instruction, running, fetched⟩
    · exact same ▸ before.operands
    · exact (before.effect_step running fetched).1

theorem Initialized.iterate (before : machine.Initialized) (count : Nat) :
    (Machine.step^[count] machine).Initialized :=
  Function.Iterate.rec Initialized before (fun _ => Initialized.step) count

/-- A global variable that can be read can be read after a step. -/
theorem Initialized.readable_step (before : machine.Initialized) {v : Variable}
    (scope : v.scope = .global) (readable : machine.state.frames.Readable v) :
    machine.step.state.frames.Readable v := by
  rcases step_state_or_running machine with same | ⟨position, instruction, running, fetched⟩
  · exact same ▸ readable
  · rcases (before.effect_step running fetched).2 with same | effect
    · exact same ▸ readable
    · exact effect.readable (Or.inl scope) readable

theorem Initialized.readable_iterate (before : machine.Initialized) {v : Variable}
    (scope : v.scope = .global) (readable : machine.state.frames.Readable v) (count : Nat) :
    (Machine.step^[count] machine).state.frames.Readable v := by
  induction count with
  | zero => exact readable
  | succ count inductionHypothesis =>
      rw [Function.iterate_succ_apply']
      exact (before.iterate count).readable_step scope inductionHypothesis

/-- The output stream changes only by the value that a write renders. -/
theorem step_output {position : Nat} {instruction : Instruction}
    (running : machine.status = .running position)
    (fetched : machine.program.at? position = some instruction) :
    machine.step.state.output = machine.state.output ∨ instruction.opcode.role = .write ∧
      ∃ value, instruction.valueAt machine.state.frames 0 = .ok value ∧
        machine.state.output.write value.output = .ok machine.step.state.output := by
  have effect := Action.ensures_execute_output (machine.siteAt position) instruction
    instruction.opcode.role machine.state
  exact step_state running fetched
    (effect.imp (fun _ _ written => written.changed) fun _ _ same => Or.inl same)

/-- The diagnostic stream changes only by the value that a debugging print renders, or by
a dump. -/
theorem step_diagnostics {position : Nat} {instruction : Instruction}
    (running : machine.status = .running position)
    (fetched : machine.program.at? position = some instruction) :
    machine.step.state.diagnostics = machine.state.diagnostics ∨
      instruction.opcode.role = .debugBreak ∨ instruction.opcode.role = .debugPrint ∧
      ∃ value, instruction.valueAt machine.state.frames 0 = .ok value ∧
        machine.state.diagnostics.write value.output = .ok machine.step.state.diagnostics := by
  have effect := Action.ensures_execute_diagnostics (machine.siteAt position) instruction
    instruction.opcode.role machine.state
  exact step_state running fetched
    (effect.imp (fun _ _ written => written.changed) fun _ _ same => Or.inl same)

/-- A write that is completed has found a value and written it. -/
theorem completed_write {position : Nat} {instruction : Instruction}
    (running : machine.status = .running position)
    (fetched : machine.program.at? position = some instruction)
    (unfaulted : ∀ fault, machine.step.status ≠ .faulted fault)
    (writes : instruction.opcode = .write) :
    ∃ value, instruction.valueAt machine.state.frames 0 = .ok value ∧
      machine.state.output.write value.output = .ok machine.step.state.output := by
  have execution := Action.ensures_execute_output (machine.siteAt position) instruction
    instruction.opcode.role machine.state
  rcases success_rule running fetched execution unfaulted with ⟨control, effect⟩
  rw [writes] at effect
  exact effect

/-- A debugging print that is completed has found a value, and has written it if debugging
output is wanted. -/
theorem completed_debugPrint {position : Nat} {instruction : Instruction}
    (running : machine.status = .running position)
    (fetched : machine.program.at? position = some instruction)
    (unfaulted : ∀ fault, machine.step.status ≠ .faulted fault)
    (prints : instruction.opcode = .dprint) :
    ∃ value, instruction.valueAt machine.state.frames 0 = .ok value ∧
      if machine.debugOutput then
        machine.state.diagnostics.write value.output = .ok machine.step.state.diagnostics
      else machine.step.state.diagnostics = machine.state.diagnostics := by
  have execution := Action.ensures_execute_diagnostics (machine.siteAt position) instruction
    instruction.opcode.role machine.state
  rcases success_rule running fetched execution unfaulted with ⟨control, effect⟩
  rw [prints] at effect
  exact effect

/-- In the run of a checked program the placeholder does not get out of the variables it
was put in by their definitions.  In every state that is reached, the operand stack holds
values only.  The next instruction assigns nothing but a value, so a variable that can be
read still can be unless its frame is moved.  A write or a debugging print is completed only
if its operand denotes a value, and this value is what it renders; nothing else is rendered
but dumps.  A global variable that can be read stays so during the whole rest of the run. -/
theorem placeholder_never_escapes {program : Program} (checked : program.IsChecked)
    (input : InputStream) (output diagnostics : OutputStream) (debugOutput : Bool)
    (profile : Option Profile) (count : Nat) :
    let machine := step^[count] (start program input output diagnostics debugOutput profile)
    (∀ value ∈ machine.state.operands, value.isInitialized = true) ∧
    (∀ position instruction, machine.status = .running position →
      program.at? position = some instruction →
      (machine.step.state.frames = machine.state.frames ∨
        instruction.opcode.role.FrameEffect .initialized instruction machine.state.frames
          machine.step.state.frames) ∧
      (∀ v, instruction.opcode.role.movesFrame = false → machine.state.frames.Readable v →
        machine.step.state.frames.Readable v) ∧
      ((∀ fault, machine.step.status ≠ .faulted fault) → instruction.opcode = .write →
        ∃ value, instruction.valueAt machine.state.frames 0 = .ok value ∧
          value.isInitialized = true ∧
          machine.state.output.write value.output = .ok machine.step.state.output) ∧
      ((∀ fault, machine.step.status ≠ .faulted fault) → instruction.opcode = .dprint →
        ∃ value, instruction.valueAt machine.state.frames 0 = .ok value ∧
          value.isInitialized = true ∧
          if debugOutput then
            machine.state.diagnostics.write value.output = .ok machine.step.state.diagnostics
          else machine.step.state.diagnostics = machine.state.diagnostics) ∧
      (machine.step.state.output = machine.state.output ∨ instruction.opcode.role = .write ∧
        ∃ value, instruction.valueAt machine.state.frames 0 = .ok value ∧
          value.isInitialized = true ∧
          machine.state.output.write value.output = .ok machine.step.state.output) ∧
      (machine.step.state.diagnostics = machine.state.diagnostics ∨
        instruction.opcode.role = .debugBreak ∨ instruction.opcode.role = .debugPrint ∧
        ∃ value, instruction.valueAt machine.state.frames 0 = .ok value ∧
          value.isInitialized = true ∧
          machine.state.diagnostics.write value.output = .ok machine.step.state.diagnostics)) ∧
    ∀ name, machine.state.frames.Readable ⟨.global, name⟩ →
      ∀ later, (step^[later] machine).state.frames.Readable ⟨.global, name⟩ := by
  intro machine
  have atStart : (start program input output diagnostics debugOutput profile).Initialized :=
    ⟨checked, fun _ member => absurd member List.not_mem_nil⟩
  have initialized : machine.Initialized := atStart.iterate count
  have sameProgram : machine.program = program := (iterate_program count _).1
  have sameOption : machine.debugOutput = debugOutput := (iterate_program count _).2
  refine ⟨initialized.operands, ?_, fun name readable => initialized.readable_iterate rfl readable⟩
  intro position instruction running fetched
  rw [← sameProgram] at fetched
  have passed : instruction.IsChecked :=
    initialized.checked instruction (List.mem_of_getElem? fetched)
  have governs := Policy.initialized_governs passed machine.state
  have frames := (initialized.effect_step running fetched).2
  refine ⟨frames, fun v stays readable => ?_, ?_, ?_, ?_, ?_⟩
  · rcases frames with same | effect
    · exact same ▸ readable
    · exact effect.readable (Or.inr stays) readable
  · intro unfaulted writes
    rcases completed_write running fetched unfaulted writes with ⟨value, denoted, written⟩
    exact ⟨value, denoted, governs.admits_valueAt denoted, written⟩
  · intro unfaulted prints
    rcases completed_debugPrint running fetched unfaulted prints with ⟨value, denoted, printed⟩
    rw [sameOption] at printed
    exact ⟨value, denoted, governs.admits_valueAt denoted, printed⟩
  · rcases step_output running fetched with same | ⟨played, value, denoted, written⟩
    · exact Or.inl same
    · exact Or.inr ⟨played, value, denoted, governs.admits_valueAt denoted, written⟩
  · rcases step_diagnostics running fetched with
      same | played | ⟨played, value, denoted, written⟩
    · exact Or.inl same
    · exact Or.inr (Or.inl played)
    · exact Or.inr (Or.inr ⟨played, value, denoted, governs.admits_valueAt denoted, written⟩)

/-- A variable that was defined and assigned can still be read when it is pushed, and what is
written is its value.  One that was only defined cannot be written: that step is a fault. -/
theorem placeholder_never_escapes_assigned :
    let x : Variable := ⟨.global, "x"⟩
    let y : Variable := ⟨.global, "y"⟩
    let program : Program :=
      ⟨[⟨1, .defVar, [.var x]⟩, ⟨2, .move, [.var x, .literal (.int 7)]⟩, ⟨3, .pushs, [.var x]⟩,
        ⟨4, .write, [.var x]⟩, ⟨5, .defVar, [.var y]⟩, ⟨6, .write, [.var y]⟩], .empty⟩
    let loaded := start program (.ofBytes []) .unlimited .unlimited true none
    let pushing := step^[2] loaded
    let writing := step^[3] loaded
    let failing := step^[5] loaded
    program.IsChecked ∧ pushing.state.frames.Readable x ∧ pushing.status = .running 2 ∧
      pushing.step.state.frames.Readable x ∧ (step^[3] pushing).state.frames.Readable x ∧
      (∀ value ∈ writing.state.operands, value.isInitialized = true) ∧
      (∃ value : Value, value.isInitialized = true ∧
        writing.state.output.write value.output = .ok writing.step.state.output) ∧
      failing.status = .running 5 ∧ ∃ fault, failing.step.status = .faulted fault := by
  intro x y program loaded pushing writing failing
  have checked : program.IsChecked := by
    intro instruction member
    simp only [program, List.mem_cons, List.not_mem_nil, or_false] at member
    rcases member with rfl | rfl | rfl | rfl | rfl | rfl <;> rfl
  have assigned : pushing.state.frames = ⟨⟨[("x", ⟨"x", .int 7⟩)]⟩, [], none⟩ := by
    decide +kernel
  have defined : failing.state.frames =
      ⟨⟨[("y", ⟨"y", .uninitialized⟩), ("x", ⟨"x", .int 7⟩)]⟩, [], none⟩ := by
    decide +kernel
  have atPush : pushing.status = .running 2 := by decide +kernel
  have atWrite : writing.status = .running 3 := by decide +kernel
  have atFailure : failing.status = .running 5 := by decide +kernel
  have readable : pushing.state.frames.Readable x := ⟨.int 7, by rw [assigned]; rfl⟩
  have unfaulted : ∀ fault, writing.step.status ≠ .faulted fault := by
    intro fault
    have moved : writing.step.status = .running 4 := by decide +kernel
    rw [moved]
    exact Status.noConfusion
  have beforePush :=
    placeholder_never_escapes checked (.ofBytes []) .unlimited .unlimited true none 2
  have beforeWrite :=
    placeholder_never_escapes checked (.ofBytes []) .unlimited .unlimited true none 3
  have beforeFailure :=
    placeholder_never_escapes checked (.ofBytes []) .unlimited .unlimited true none 5
  -- The machines go by their names from here on, so that none of them is evaluated again.
  rw [show step^[2] (start program _ _ _ _ _) = pushing from rfl] at beforePush
  rw [show step^[3] (start program _ _ _ _ _) = writing from rfl] at beforeWrite
  rw [show step^[5] (start program _ _ _ _ _) = failing from rfl] at beforeFailure
  clear_value pushing writing failing
  rcases beforePush with ⟨-, pushes, always⟩
  rcases beforeWrite with ⟨operands, writes, -⟩
  rcases beforeFailure with ⟨-, fails, -⟩
  rcases pushes 2 ⟨3, .pushs, [.var x]⟩ atPush rfl with ⟨-, kept, -⟩
  rcases writes 3 ⟨4, .write, [.var x]⟩ atWrite rfl with ⟨-, -, written, -⟩
  rcases written unfaulted rfl with ⟨value, -, initialized, rendered⟩
  rcases fails 5 ⟨6, .write, [.var y]⟩ atFailure rfl with ⟨-, -, refused, -⟩
  refine ⟨checked, readable, atPush, kept x rfl readable, always "x" readable 3, operands,
    ⟨value, initialized, rendered⟩, atFailure, ?_⟩
  by_contra none
  rcases refused (fun fault faulted => none ⟨fault, faulted⟩) rfl with ⟨value, denoted, -⟩
  rw [defined] at denoted
  cases denoted

end Machine
end FrameMachine
