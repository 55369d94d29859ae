import FrameMachine.Proofs.Effect
import FrameMachine.Proofs.Step

namespace FrameMachine

/-!
# Checking before the run is enough

The accessors of an instruction and the table of signatures are two descriptions of the
same operands, and an execution relies on the first while the check relies on the
second.  For a checked program they never disagree: no run of it, however long and
whatever it reads, ends with an error that belongs before the run.  What remains are
the ordinary errors of computation, and those of streams that can fail.
-/

/-- The kinds of the errors that remain. -/
theorem Policy.kind_of_accepts {canFail : Bool} {error : Error}
    (accepted : (ordinary canFail).accepts error) :
    error.kind ≠ .malformedProgram ∧ error.kind ≠ .duplicateLabel ∧
      (canFail = false → error.kind ≠ .internal) := by
  rcases accepted with ordinary | ⟨fails, cause, equal⟩
  · have kind := Error.kind_of_isOrdinary ordinary
    exact ⟨kind.1, kind.2.1, fun _ => kind.2.2⟩
  · subst equal
    refine ⟨nofun, nofun, fun never => ?_⟩
    rw [never] at fails
    cases fails

namespace Machine

/-- What the run of a checked program keeps: the streams can fail as they could at the
start, and a fault is ordinary or comes from a stream that can fail. -/
structure OrdinarilyFaulted (canFail : Bool) (machine : Machine) : Prop where
  streams : machine.state.canFail = canFail
  fault : ∀ fault, machine.status = .faulted fault →
    (Policy.ordinary canFail).accepts fault.error

theorem ordinarilyFaulted_start (program : Program) (input : InputStream)
    (output diagnostics : OutputStream) (debugOutput : Bool) (profile : Option Profile) :
    OrdinarilyFaulted (State.initial input output diagnostics).canFail
      (start program input output diagnostics debugOutput profile) where
  streams := rfl
  fault fault faulted := absurd faulted (continueAt_ne_faulted program 0 fault)

/-- One step of a checked program. -/
theorem OrdinarilyFaulted.step {canFail : Bool} {machine : Machine}
    (before : machine.OrdinarilyFaulted canFail) (checked : machine.program.IsChecked) :
    machine.step.OrdinarilyFaulted canFail := by
  apply step_rule (motive := fun after => after.OrdinarilyFaulted canFail)
  · intro _
    exact before
  · intro position _ _
    exact ⟨before.streams, fun fault faulted => nomatch faulted⟩
  · intro position instruction _ fetched
    have passed : instruction.IsChecked := checked instruction (List.mem_of_getElem? fetched)
    have execution := (Policy.ordinary_governs passed machine.state).allows_execute
      (machine.siteAt position) rfl machine.state ⟨rfl, rfl, fun _ _ => trivial⟩
    rw [ensures_perform]
    rw [before.streams] at execution
    refine execution.imp ?_ ?_
    · intro control after ⟨holds, _⟩
      refine ⟨fun status passes => ⟨holds.canFail.trans before.streams, fun fault faulted =>
        absurd faulted (transfer_ne_faulted passes fault)⟩, fun error failed => ?_⟩
      obtain ⟨name, _, undefined⟩ := transfer_eq_error failed
      refine ⟨holds.canFail.trans before.streams, fun fault faulted => ?_⟩
      cases faulted
      exact Or.inl (undefined ▸ rfl)
    · intro error after ⟨holds, accepted⟩
      refine ⟨holds.canFail.trans before.streams, fun fault faulted => ?_⟩
      cases faulted
      exact accepted

/-- Any number of steps of a checked program. -/
theorem ordinarilyFaulted_iterate {program : Program} (checked : program.IsChecked)
    (input : InputStream) (output diagnostics : OutputStream) (debugOutput : Bool)
    (profile : Option Profile) (count : Nat) :
    (step^[count] (start program input output diagnostics debugOutput profile)).OrdinarilyFaulted
      (State.initial input output diagnostics).canFail := by
  induction count with
  | zero => exact ordinarilyFaulted_start program input output diagnostics debugOutput profile
  | succ count inductionHypothesis =>
      rw [Function.iterate_succ_apply']
      apply inductionHypothesis.step
      rw [(iterate_program count _).1]
      exact checked

/-- The program of an accepted text, like every program of checked instructions, never
faults with an error that belongs before the run, nor with an internal error unless one
of its streams can fail.  Each accessor that a signature allows succeeds, and executing
an instruction of the program in any state whatever finds no operand missing or of the
wrong kind. -/
theorem checked_program_faults_ordinarily {program : Program}
    (accepted : (∃ text, Program.ofText text = .ok program) ∨ program.IsChecked)
    (input : InputStream) (output diagnostics : OutputStream) (debugOutput : Bool)
    (profile : Option Profile) (count : Nat) :
    (∀ fault,
      (step^[count] (start program input output diagnostics debugOutput profile)).status =
          .faulted fault →
        fault.error.kind ≠ .malformedProgram ∧ fault.error.kind ≠ .duplicateLabel ∧
        (input.canFail = false → output.canFail = false → diagnostics.canFail = false →
          fault.error.kind ≠ .internal)) ∧
      ∀ instruction ∈ program.instructions,
        (∀ slot kind, instruction.opcode.signature[slot]? = some kind →
          instruction.Provides slot kind) ∧
        ∀ site state error after,
          (Action.execute site instruction instruction.opcode.role).run state =
              .error error after →
            error.kind ≠ .malformedProgram ∧ error.kind ≠ .duplicateLabel := by
  have checked : program.IsChecked := by
    rcases accepted with ⟨text, loaded⟩ | checked
    · exact Program.ofText_isChecked loaded
    · exact checked
  constructor
  · intro fault faulted
    have run := ordinarilyFaulted_iterate checked input output diagnostics debugOutput profile count
    have kind := Policy.kind_of_accepts (run.fault fault faulted)
    refine ⟨kind.1, kind.2.1, fun inputNever outputNever diagnosticsNever => kind.2.2 ?_⟩
    simp [State.canFail, State.initial, inputNever, outputNever, diagnosticsNever]
  · intro instruction member
    have passed := checked instruction member
    refine ⟨fun slot kind declared => passed.provides declared, ?_⟩
    intro site state error after failed
    have execution := (Policy.ordinary_governs passed state).allows_execute site rfl state
      ⟨rfl, rfl, fun _ _ => trivial⟩
    rw [Action.Ensures, failed] at execution
    have kind := Policy.kind_of_accepts execution.2
    exact ⟨kind.1, kind.2.1⟩

/-- A checked program can fault: this one pops from an empty stack. -/
theorem checked_program_faults_ordinarily_pops :
    let program : Program := ⟨[⟨1, .pops, [.var ⟨.global, "x"⟩]⟩], .empty⟩
    let fault : Fault := ⟨⟨0, 1, .pops⟩, .emptyOperandStack⟩
    program.IsChecked ∧
      (step^[1] (start program (.ofBytes []) .unlimited .unlimited true none)).status =
        .faulted fault ∧
      fault.error.kind ≠ .malformedProgram ∧ fault.error.kind ≠ .duplicateLabel ∧
      fault.error.kind ≠ .internal := by
  intro program fault
  have checked : program.IsChecked := by
    intro instruction member
    rw [List.mem_singleton.mp member]
    rfl
  have faulted : (step^[1] (start program (.ofBytes []) .unlimited .unlimited true none)).status =
      .faulted fault := rfl
  have kind := (checked_program_faults_ordinarily (Or.inr checked) (.ofBytes []) .unlimited
    .unlimited true none 1).1 fault faulted
  exact ⟨checked, faulted, kind.1, kind.2.1, kind.2.2 rfl rfl rfl⟩

end Machine
end FrameMachine
