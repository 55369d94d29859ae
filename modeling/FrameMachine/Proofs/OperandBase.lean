import FrameMachine.Proofs.Instrumentation

namespace FrameMachine

/-!
# What lies below the operands

The operand stack is shared.  Instructions that name their operands and their destination
push the operands, compute on top of the stack and take the result away, and conditional jumps
compare the two topmost values.  None of them looks below the values that it has pushed itself
or that it needs.  So a run can be placed on top of any other values: it takes the same steps,
and these values lie below its own until the end, on every way in which an instruction can fail.

Three things would give the values below away.  An instruction may empty the stack, it may
print a dump of it, and it may find too few operands where the values below would have served.
A run that does none of this stays above its base.
-/

namespace Coupling

/-- States of which the second has further values below its operands.  When the first
execution finds too few operands, nothing is asked of the second. -/
def above (below : List Value) : Coupling where
  related left right := right = { left with operands := left.operands ++ below }
  excused error := error = .emptyOperandStack
  frames := by
    rintro left _ rfl
    rfl
  calls := by
    rintro left _ rfl
    rfl
  input := by
    rintro left _ rfl
    rfl
  output := by
    rintro left _ rfl
    rfl
  setFrames := by
    rintro left _ frames rfl
    rfl
  setCalls := by
    rintro left _ calls rfl
    rfl
  setInput := by
    rintro left _ input rfl
    rfl
  setOutput := by
    rintro left _ output rfl
    rfl
  push := by
    rintro left _ value rfl
    rfl
  pop := by
    rintro left _ value rest rfl stack
    refine ⟨rest ++ below, ?_, rfl⟩
    rw [stack, List.cons_append]
  empty _ _ := Or.inl rfl

variable {below : List Value}

theorem agrees_writeDiagnostic_above (text : String) :
    (above below).Agrees (Action.writeDiagnostic text) (Action.writeDiagnostic text) := by
  rintro left _ rfl
  simp only [Action.ensures_writeDiagnostic]
  cases left.diagnostics.write text with
  | ok diagnostics => simp [above]
  | error cause => simp [above]

/-- Of the remaining roles, printing a value does not show the stack, and neither does a
breakpoint at which nothing is printed. -/
theorem agrees_execute_above {site site' : Site} (option : site'.debugOutput = site.debugOutput)
    (instruction : Instruction) {role : Role} (elsewhere : role.isLocal = false)
    (keeps : role ≠ .clear) (quiet : role = .debugBreak → site.debugOutput = false) :
    (above below).Agrees (Action.execute site instruction role)
      (Action.execute site' instruction role) := by
  cases role with
  | clear => exact absurd rfl keeps
  | debugPrint =>
      apply ((above below).agrees_symbolValue instruction 0).bind
      intro value
      rw [option]
      cases site.debugOutput with
      | false => exact agrees_pure _
      | true => exact (agrees_writeDiagnostic_above value.output).next
  | debugBreak =>
      unfold Action.execute
      rw [option, quiet rfl]
      exact agrees_pure _
  | _ => cases elsewhere

end Coupling

/-- The error of a machine that has faulted. -/
def Status.error? : Status → Option Error
  | .faulted fault => some fault.error
  | _ => none

namespace Machine

/-- The machine with further values below its operand stack. -/
def restingOn (machine : Machine) (below : List Value) : Machine :=
  { machine with
    state := { machine.state with operands := machine.state.operands ++ below } }

/-- The next step faults because there are too few operands. -/
def LacksOperand (machine : Machine) : Prop :=
  machine.status.isRunning = true ∧ machine.step.status.error? = some .emptyOperandStack

/-- The next step does not give away what lies below the operand stack. -/
structure StaysAbove (machine : Machine) : Prop where
  keeps : ∀ position, ¬machine.Executes position .clears
  quiet : ¬machine.PrintsDump
  supplied : ¬machine.LacksOperand

variable {machine first second : Machine} {below : List Value}

/-- The criterion for a machine that is running. -/
theorem staysAbove_of_running {position : Nat} (running : machine.status = .running position)
    (keeps : (machine.program.at? position).map Instruction.opcode ≠ some .clears)
    (quiet : (machine.program.at? position).map Instruction.opcode ≠ some .breakpoint)
    (supplied : machine.step.status.error? ≠ some .emptyOperandStack) : machine.StaysAbove := by
  have only {place : Nat} {opcode : Opcode} (executes : machine.Executes place opcode) :
      (machine.program.at? position).map Instruction.opcode = some opcode := by
    rcases executes with ⟨alsoRunning, instruction, fetched, same⟩
    cases running.symm.trans alsoRunning
    rw [fetched, Option.map_some, same]
  refine ⟨?_, ?_, ?_⟩
  · intro place executes
    exact keeps (only executes)
  · rintro ⟨-, place, executes⟩
    exact quiet (only executes)
  · rintro ⟨-, lacking⟩
    exact supplied lacking

theorem follows_restingOn (machine : Machine) (below : List Value) :
    Follows (.above below) id machine (machine.restingOn below) where
  program := machine.program.renumber_id.symm
  state := rfl
  status := machine.status.renumber_id.symm
  executed := rfl

/-- Both machines agree about an instruction that does not give away what lies below. -/
theorem StaysAbove.agreesElsewhere (stays : first.StaysAbove)
    (option : second.debugOutput = first.debugOutput) :
    AgreesElsewhere (.above below) first second := by
  intro position instruction running fetched elsewhere
  apply Coupling.agrees_execute_above option instruction elsewhere
  · intro clears
    have opcode : instruction.opcode = .clears := Opcode.role_injective clears
    exact stays.keeps position ⟨running, instruction, fetched, opcode⟩
  · intro breaks
    have opcode : instruction.opcode = .breakpoint := Opcode.role_injective breaks
    apply Bool.eq_false_iff.mpr
    intro wanted
    exact stays.quiet ⟨wanted, position, running, instruction, fetched, opcode⟩

/-- A step that stays above its base keeps the machines together. -/
theorem StaysAbove.follows_step (stays : first.StaysAbove)
    (follows : Follows (.above below) id first second)
    (option : second.debugOutput = first.debugOutput) :
    Follows (.above below) id first.step second.step := by
  rcases follows.step (stays.agreesElsewhere option) with excused | together
  · -- The error is excused, so it was there before: this step did not lack an operand.
    rcases excused with ⟨fault, faulted, lacking⟩
    have stopped : first.status.isRunning = false := by
      apply Bool.eq_false_iff.mpr
      intro running
      refine stays.supplied ⟨running, ?_⟩
      rw [faulted, Status.error?, lacking]
    have alsoStopped : second.status.isRunning = false := by
      rw [follows.status, Status.renumber_id]
      exact stopped
    rw [step_of_not_running stopped, step_of_not_running alsoStopped]
    exact follows
  · exact together

/-- A run that stays above its base, with and without the values below. -/
theorem follows_iterate_restingOn {count : Nat}
    (stays : ∀ index < count, (step^[index] machine).StaysAbove) :
    Follows (.above below) id (step^[count] machine) (step^[count] (machine.restingOn below)) := by
  induction count with
  | zero => exact follows_restingOn machine below
  | succ count inductionHypothesis =>
      have option : (step^[count] (machine.restingOn below)).debugOutput =
          (step^[count] machine).debugOutput := by
        rw [(iterate_program count _).2, (iterate_program count _).2]
        rfl
      rw [Function.iterate_succ_apply', Function.iterate_succ_apply']
      apply (stays count (Nat.lt_succ_self count)).follows_step _ option
      exact inductionHypothesis fun index within => stays index (Nat.lt_succ_of_lt within)

/-- What lies below the operand stack does not matter.  Take any machine, in any state, and the
same machine with further values below its operands.  For as long as the first one does not
empty the stack, prints no dump and does not fault for want of an operand, both are after every
step in the same status, with the same error if they have faulted, have executed as many
instructions, and have the same frames, return addresses, input and output.  The operand stack
of the second is that of the first on top of the further values. -/
theorem operands_below_do_not_matter (machine : Machine) (below : List Value) (count : Nat)
    (stays : ∀ index < count, (step^[index] machine).StaysAbove) :
    ∀ index ≤ count,
      let first := step^[index] machine
      let second := step^[index] (machine.restingOn below)
      second.status = first.status ∧ second.executed = first.executed ∧
      second.state = { first.state with operands := first.state.operands ++ below } := by
  intro index bound first second
  have together : Follows (.above below) id first second :=
    follows_iterate_restingOn fun earlier within => stays earlier (Nat.lt_of_lt_of_le within bound)
  exact ⟨together.status.trans (Status.renumber_id _), together.executed, together.state⟩

/-- A sum is computed on top of a value that is not a number, and then taken for a variable
that does not exist. -/
theorem operands_below_do_not_matter_undefined :
    let program : Program :=
      ⟨[⟨1, .pushs, [.literal (.int 2)]⟩, ⟨2, .pushs, [.literal (.int 3)]⟩, ⟨3, .adds, []⟩,
        ⟨4, .pops, [.var ⟨.global, "x"⟩]⟩], .empty⟩
    let machine := start program (.ofBytes []) .unlimited .unlimited true none
    (∀ index < 4, (step^[index] machine).StaysAbove) ∧
      (step^[3] (machine.restingOn [.nil])).state.operands = [.int 5, .nil] ∧
      (step^[4] (machine.restingOn [.nil])).status =
        .faulted ⟨⟨3, 4, .pops⟩, .undefinedVariable ⟨.global, "x"⟩⟩ ∧
      (step^[4] (machine.restingOn [.nil])).state.operands = [.nil] := by
  intro program machine
  have running : ∀ index < 4, (step^[index] machine).status = .running index := by
    decide +kernel
  have harmless : ∀ index < 4,
      (program.at? index).map Instruction.opcode ≠ some .clears ∧
        (program.at? index).map Instruction.opcode ≠ some .breakpoint := by
    decide +kernel
  have supplied : ∀ index < 4,
      (step^[index] machine).step.status.error? ≠ some .emptyOperandStack := by
    decide +kernel
  have stays : ∀ index < 4, (step^[index] machine).StaysAbove := by
    intro index bound
    have fetched : (step^[index] machine).program = program := (iterate_program index machine).1
    apply staysAbove_of_running (running index bound)
    · rw [fetched]
      exact (harmless index bound).1
    · rw [fetched]
      exact (harmless index bound).2
    · exact supplied index bound
  have summed : (step^[3] machine).state.operands = [.int 5] := by
    decide +kernel
  have faulted : (step^[4] machine).status =
      .faulted ⟨⟨3, 4, .pops⟩, .undefinedVariable ⟨.global, "x"⟩⟩ := by
    decide +kernel
  have emptied : (step^[4] machine).state.operands = [] := by
    decide +kernel
  have before := operands_below_do_not_matter machine [.nil] 4 stays 3 (by decide)
  have behind := operands_below_do_not_matter machine [.nil] 4 stays 4 (by decide)
  refine ⟨stays, ?_, behind.1.trans faulted, ?_⟩
  · rw [before.2.2, summed]
    rfl
  · rw [behind.2.2, emptied]
    rfl

end Machine
end FrameMachine
