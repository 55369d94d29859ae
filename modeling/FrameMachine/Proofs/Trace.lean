import FrameMachine.Proofs.Fault
import FrameMachine.Proofs.Instrumentation

namespace FrameMachine

/-!
# Output is the trace of a run

What a machine has written is determined by which instructions it has completed and with
which values.  An instruction that is completed shows at most one event: a value that it
wrote, a value that it printed for debugging, or a dump.  The events of a run, in the order of
execution, are its trace.  Each of the two output streams holds the texts of its own events,
one behind the other, and nothing else.  A fault takes nothing back, and the instruction that
faults adds nothing.
-/

/-- What a completed instruction shows on the output streams. -/
inductive Event where
  | wrote (value : Value)
  | printed (value : Value)
  | dumped (text : String)
deriving DecidableEq

namespace Event

/-- The text of an event on the output stream. -/
def output? : Event → Option String
  | .wrote value => some value.output
  | _ => none

/-- The text of an event on the diagnostic stream. -/
def diagnostics? : Event → Option String
  | .wrote _ => none
  | .printed value => some value.output
  | .dumped text => some text

end Event

namespace Machine

/-- The instruction that the next step completes, with its position. -/
def completes? (machine : Machine) : Option (Nat × Instruction) :=
  match machine.status, machine.step.status with
  | .running _, .faulted _ => none
  | .running position, _ =>
      (machine.program.at? position).map fun instruction => (position, instruction)
  | _, _ => none

/-- The event of an instruction that the machine completes at a position. -/
def eventOf (machine : Machine) (position : Nat) (instruction : Instruction) : Option Event :=
  let value := (instruction.valueAt machine.state.frames 0).toOption
  match instruction.opcode with
  | .write => value.map .wrote
  | .dprint => if machine.debugOutput then value.map .printed else none
  | .breakpoint =>
      if machine.debugOutput then
        some (.dumped (machine.state.dump machine.program position (machine.executed + 1)))
      else none
  | _ => none

/-- The event of the next step. -/
def event? (machine : Machine) : Option Event :=
  match machine.completes? with
  | some (position, instruction) => machine.eventOf position instruction
  | none => none

/-- The events of a number of steps, in the order of execution. -/
def events (machine : Machine) (count : Nat) : List Event :=
  (List.range count).filterMap fun index => (step^[index] machine).event?

/-- What is seen at one more step stands behind what was seen before. -/
theorem filterMap_range_succ {α : Type} (seen : Nat → Option α) (count : Nat) :
    (List.range (count + 1)).filterMap seen =
      (List.range count).filterMap seen ++ (seen count).toList := by
  rw [List.range_succ, List.filterMap_append]
  apply congrArg ((List.range count).filterMap seen ++ ·)
  cases last : seen count <;> simp [last]

theorem events_succ (machine : Machine) (count : Nat) :
    machine.events (count + 1) =
      machine.events count ++ (step^[count] machine).event?.toList :=
  filterMap_range_succ _ count

variable {machine : Machine} {position : Nat} {instruction : Instruction}

/-! ## Completed instructions -/

theorem completes?_eq_some_iff :
    machine.completes? = some (position, instruction) ↔
      machine.status = .running position ∧ machine.program.at? position = some instruction ∧
        ∀ fault, machine.step.status ≠ .faulted fault := by
  unfold completes?
  cases machine.status with
  | halted code => simp
  | faulted fault => simp
  | running here =>
      cases machine.step.status with
      | faulted fault => simp
      | running next | halted code =>
          simp only [Option.map_eq_some_iff, Prod.mk.injEq, Status.running.injEq, ne_eq,
            reduceCtorEq, not_false_eq_true, implies_true, and_true]
          constructor
          · rintro ⟨found, fetched, rfl, rfl⟩
            exact ⟨rfl, fetched⟩
          · rintro ⟨rfl, fetched⟩
            exact ⟨instruction, fetched, rfl, rfl⟩

/-- A step that completes no instruction writes nothing. -/
theorem spares_of_completes?_eq_none (incomplete : machine.completes? = none) :
    machine.step.state.output = machine.state.output ∧
      machine.step.state.diagnostics = machine.state.diagnostics := by
  rcases step_state_or_running machine with same | ⟨position, instruction, running, fetched⟩
  · rw [same]
    exact ⟨rfl, rfl⟩
  · cases ending : machine.step.status with
    | faulted fault =>
        have spared := spares_of_fault running fetched ending
        exact ⟨spared.output, spared.diagnostics⟩
    | running next | halted code =>
        have completed : machine.completes? = some (position, instruction) := by
          apply completes?_eq_some_iff.mpr
          refine ⟨running, fetched, fun fault => ?_⟩
          rw [ending]
          exact nofun
        rw [completed] at incomplete
        cases incomplete

/-- A completed instruction has its effect on the output stream. -/
theorem outputEffect_of_completes?
    (completed : machine.completes? = some (position, instruction)) :
    instruction.opcode.role.OutputEffect instruction machine.state machine.step.state := by
  rcases completes?_eq_some_iff.mp completed with ⟨running, fetched, unfaulted⟩
  have execution := Action.ensures_execute_output (machine.siteAt position) instruction
    instruction.opcode.role machine.state
  rcases success_rule running fetched execution unfaulted with ⟨_, effect⟩
  exact effect

/-- A completed instruction has its effect on the diagnostic stream. -/
theorem diagnosticEffect_of_completes?
    (completed : machine.completes? = some (position, instruction)) :
    instruction.opcode.role.DiagnosticEffect (machine.siteAt position) instruction machine.state
      machine.step.state := by
  rcases completes?_eq_some_iff.mp completed with ⟨running, fetched, unfaulted⟩
  have execution := Action.ensures_execute_diagnostics (machine.siteAt position) instruction
    instruction.opcode.role machine.state
  rcases success_rule running fetched execution unfaulted with ⟨_, effect⟩
  exact effect

end Machine

/-- What is written to a stream stands behind what it held. -/
theorem OutputStream.text_of_write {stream after : OutputStream} {text : String}
    (written : stream.write text = .ok after) : after.text = stream.text ++ text := by
  unfold write at written
  split at written <;> cases written
  rfl

namespace Machine

variable {machine : Machine} {position : Nat} {instruction : Instruction}

/-! ## One step -/

/-- The events of all instructions but a write are for the diagnostics. -/
theorem filterMap_output?_eventOf (machine : Machine) (position : Nat)
    (other : instruction.opcode ≠ .write) :
    (machine.eventOf position instruction).toList.filterMap Event.output? = [] := by
  unfold eventOf
  split
  · exact absurd ‹_› other
  · cases machine.debugOutput <;> cases (instruction.valueAt machine.state.frames 0).toOption <;>
      simp [List.filterMap_cons, Event.output?]
  · cases machine.debugOutput <;> simp [List.filterMap_cons, Event.output?]
  · rfl

/-- The output stream behind a completed instruction. -/
theorem output_eventOf (position : Nat) {after : State}
    (effect : instruction.opcode.role.OutputEffect instruction machine.state after) :
    after.output.text = machine.state.output.text ++
      String.join ((machine.eventOf position instruction).toList.filterMap Event.output?) := by
  by_cases writes : instruction.opcode = .write
  · rw [writes] at effect
    rcases effect with ⟨value, denoted, written⟩
    rw [OutputStream.text_of_write written]
    simp [eventOf, writes, denoted, Except.toOption, Event.output?]
  · rcases effect.changed with same | ⟨played, -⟩
    · rw [same, filterMap_output?_eventOf machine position writes, String.join_nil,
        String.append_empty]
    · exact absurd (Opcode.role_injective played) writes

/-- The diagnostic stream behind a completed instruction. -/
theorem diagnostics_eventOf {after : State}
    (effect : instruction.opcode.role.DiagnosticEffect (machine.siteAt position) instruction
      machine.state after) :
    after.diagnostics.text = machine.state.diagnostics.text ++
      String.join ((machine.eventOf position instruction).toList.filterMap Event.diagnostics?) := by
  unfold eventOf
  split
  · rename_i writes
    rw [writes] at effect
    have same : after.diagnostics = machine.state.diagnostics := effect
    rw [same]
    cases (instruction.valueAt machine.state.frames 0).toOption <;>
      simp [List.filterMap_cons, Event.diagnostics?]
  · rename_i prints
    rw [prints] at effect
    rcases effect with ⟨value, denoted, written⟩
    rw [denoted]
    cases wanted : machine.debugOutput with
    | false =>
        rw [siteAt, wanted] at written
        rw [if_neg Bool.false_ne_true] at written
        simp [written]
    | true =>
        rw [siteAt, wanted, if_pos rfl] at written
        rw [OutputStream.text_of_write written]
        simp [Except.toOption, Event.diagnostics?]
  · rename_i breaks
    rw [breaks] at effect
    have written : if machine.debugOutput = true then
        machine.state.diagnostics.write (machine.state.dump machine.program position
          (machine.executed + 1)) = .ok after.diagnostics
      else after.diagnostics = machine.state.diagnostics := effect
    cases wanted : machine.debugOutput with
    | false =>
        rw [wanted, if_neg Bool.false_ne_true] at written
        simp [written]
    | true =>
        rw [wanted, if_pos rfl] at written
        rw [OutputStream.text_of_write written]
        simp [Event.diagnostics?]
  · rename_i noPrint noBreak
    rcases effect.changed with same | breaks | ⟨prints, -⟩
    · rw [same]
      simp
    · exact absurd (Opcode.role_injective breaks) noBreak
    · exact absurd (Opcode.role_injective prints) noPrint

/-- A step adds the text of its event to each stream. -/
theorem text_step (machine : Machine) :
    machine.step.state.output.text = machine.state.output.text ++
        String.join (machine.event?.toList.filterMap Event.output?) ∧
      machine.step.state.diagnostics.text = machine.state.diagnostics.text ++
        String.join (machine.event?.toList.filterMap Event.diagnostics?) := by
  unfold event?
  cases completed : machine.completes? with
  | none =>
      rcases spares_of_completes?_eq_none completed with ⟨output, diagnostics⟩
      rw [output, diagnostics]
      simp
  | some place =>
      exact ⟨output_eventOf place.1 (outputEffect_of_completes? completed),
        diagnostics_eventOf (diagnosticEffect_of_completes? completed)⟩

/-! ## Runs -/

/-- A run adds the texts of its events to each stream, one behind the other. -/
theorem text_iterate (machine : Machine) (count : Nat) :
    (step^[count] machine).state.output.text = machine.state.output.text ++
        String.join ((machine.events count).filterMap Event.output?) ∧
      (step^[count] machine).state.diagnostics.text = machine.state.diagnostics.text ++
        String.join ((machine.events count).filterMap Event.diagnostics?) := by
  induction count with
  | zero => simp [events]
  | succ count inductionHypothesis =>
      rcases text_step (step^[count] machine) with ⟨output, diagnostics⟩
      rw [Function.iterate_succ_apply', output, diagnostics, inductionHypothesis.1,
        inductionHypothesis.2, events_succ]
      simp [String.append_assoc]

/-- Events that have been shown stay. -/
theorem events_prefix (machine : Machine) {earlier count : Nat} (bound : earlier ≤ count) :
    machine.events earlier <+: machine.events count := by
  induction count with
  | zero =>
      rw [Nat.le_zero.mp bound]
  | succ count inductionHypothesis =>
      rcases Nat.lt_or_eq_of_le bound with before | same
      · rw [events_succ]
        exact (inductionHypothesis (Nat.le_of_lt_succ before)).trans (List.prefix_append _ _)
      · rw [same]

/-- A value that was written or printed is the value of the operand. -/
theorem exists_value_of_completes? (completed : machine.completes? = some (position, instruction))
    (shows : instruction.opcode = .write ∨ instruction.opcode = .dprint) :
    ∃ value, instruction.valueAt machine.state.frames 0 = .ok value := by
  rcases shows with writes | prints
  · have effect := outputEffect_of_completes? completed
    rw [writes] at effect
    rcases effect with ⟨value, denoted, -⟩
    exact ⟨value, denoted⟩
  · have effect := diagnosticEffect_of_completes? completed
    rw [prints] at effect
    rcases effect with ⟨value, denoted, -⟩
    exact ⟨value, denoted⟩

/-! ## Whole runs -/

theorem flush_state (machine : Machine) : machine.flush.state = machine.state := by
  unfold flush
  split <;> rfl

/-- A run that is given up or has ended leaves the state that its steps have made. -/
theorem run_state (machine : Machine) :
    (run machine).2.state = (step^[stepLimit] machine).state := by
  rw [run, ← steps_eq_iterate]
  generalize steps stepLimit machine = reached
  cases status : reached.status with
  | running position => rfl
  | halted code => exact flush_state reached
  | faulted fault => exact flush_state reached

/-- Once a machine has stopped, the rest of the steps do not matter. -/
theorem iterate_of_stopped {count limit : Nat}
    (stopped : (step^[count] machine).status.isRunning = false) (bound : count ≤ limit) :
    step^[limit] machine = step^[count] machine := by
  rcases Nat.exists_eq_add_of_le' bound with ⟨rest, total⟩
  rw [total, Function.iterate_add_apply]
  exact iterate_of_not_running stopped rest

end Machine

/-! ## Bytes -/

/-- Bytes of texts that are written one behind the other are bytes of one text. -/
theorem Text.flatMap_bytes (fragments : List String) :
    fragments.flatMap bytes = bytes (String.join fragments) := by
  induction fragments with
  | nil => simp [bytes]
  | cons first rest inductionHypothesis =>
      rw [List.flatMap_cons, inductionHypothesis, String.join_cons, bytes_append]

theorem Text.decode?_bytes (text : String) : InputStream.decode? (bytes text) = some text := by
  rw [InputStream.decode?, bytes, Array.toArray_toList]
  exact dif_pos text.isValidUTF8

namespace Machine

/-- The streams hold the exact trace of a run.  After any number of steps of any program, with
any input and options, the output stream holds the texts of the values that completed writes
evaluated, in the order of execution and nothing else, and the diagnostic stream holds those
of completed debugging prints and of dumps; it is empty if debugging output is not wanted.  A
write or print that is completed has a value.  What was on a stream after fewer steps is still
there, so a fault takes nothing back.  The bytes of all these texts, one behind the other, are
UTF-8 and decode to the text of the stream, so that nothing would have to be replaced.  When
the machine has stopped, a whole run ends with these streams. -/
theorem streams_hold_exact_trace (program : Program) (input : InputStream) (debugOutput : Bool)
    (profile : Option Profile) (count : Nat) :
    let initial := start program input .unlimited .unlimited debugOutput profile
    let machine := step^[count] initial
    let written := (initial.events count).filterMap Event.output?
    let reported := (initial.events count).filterMap Event.diagnostics?
    machine.state.output.text = String.join written ∧
    machine.state.diagnostics.text = String.join reported ∧
    (debugOutput = false → machine.state.diagnostics.text = "") ∧
    (∀ index position instruction,
      (step^[index] initial).completes? = some (position, instruction) →
      instruction.opcode = .write ∨ instruction.opcode = .dprint →
      ∃ value, instruction.valueAt (step^[index] initial).state.frames 0 = .ok value) ∧
    (∀ earlier ≤ count,
      (∃ later, machine.state.output.text =
        (step^[earlier] initial).state.output.text ++ later) ∧
      ∃ later, machine.state.diagnostics.text =
        (step^[earlier] initial).state.diagnostics.text ++ later) ∧
    InputStream.decode? (written.flatMap Text.bytes) = some machine.state.output.text ∧
    InputStream.decode? (reported.flatMap Text.bytes) = some machine.state.diagnostics.text ∧
    (machine.status.isRunning = false → count ≤ stepLimit →
      (run initial).2.state = machine.state) := by
  intro initial machine written reported
  have texts (steps : Nat) : (step^[steps] initial).state.output.text =
        String.join ((initial.events steps).filterMap Event.output?) ∧
      (step^[steps] initial).state.diagnostics.text =
        String.join ((initial.events steps).filterMap Event.diagnostics?) := by
    rcases text_iterate initial steps with ⟨output, diagnostics⟩
    exact ⟨output.trans String.empty_append, diagnostics.trans String.empty_append⟩
  rcases texts count with ⟨output, diagnostics⟩
  refine ⟨output, diagnostics, ?_, ?_, ?_, ?_, ?_, ?_⟩
  · intro silent
    exact congrArg OutputStream.text (diagnostics_iterate_of_silent silent count)
  · intro index position instruction completed shows
    exact exists_value_of_completes? completed shows
  · intro earlier bound
    rcases initial.events_prefix bound with ⟨later, total⟩
    rcases texts earlier with ⟨earlierOutput, earlierDiagnostics⟩
    rw [output, diagnostics, earlierOutput, earlierDiagnostics, ← total, List.filterMap_append,
      List.filterMap_append, String.join_append, String.join_append]
    exact ⟨⟨_, rfl⟩, ⟨_, rfl⟩⟩
  · rw [Text.flatMap_bytes, Text.decode?_bytes, output]
  · rw [Text.flatMap_bytes, Text.decode?_bytes, diagnostics]
  · intro stopped bound
    rw [run_state, iterate_of_stopped stopped bound]

/-- A run that prints a number, writes a text with an escape in it and then faults. -/
theorem streams_hold_exact_trace_faulting :
    let program : Program :=
      ⟨[⟨1, .dprint, [.literal (.int 7)]⟩, ⟨2, .write, [.literal (.string "a\\010b")]⟩,
        ⟨3, .adds, []⟩, ⟨4, .write, [.literal (.int 1)]⟩], .empty⟩
    let initial := start program (.ofBytes []) .unlimited .unlimited true none
    (step^[3] initial).status = .faulted ⟨⟨2, 3, .adds⟩, .emptyOperandStack⟩ ∧
      initial.events 3 = [.printed (.int 7), .wrote (.string "a\\010b")] ∧
      (run initial).2.state.output.text = "a\nb" ∧
      (run initial).2.state.diagnostics.text = "7" := by
  intro program initial
  have faulted : (step^[3] initial).status = .faulted ⟨⟨2, 3, .adds⟩, .emptyOperandStack⟩ := by
    decide +kernel
  have shown : initial.events 3 = [.printed (.int 7), .wrote (.string "a\\010b")] := by
    decide +kernel
  rcases streams_hold_exact_trace program (.ofBytes []) true none 3 with
    ⟨output, diagnostics, -, -, -, -, -, ended⟩
  have final : (run initial).2.state = (step^[3] initial).state :=
    ended (congrArg Status.isRunning faulted) (by decide)
  rw [shown] at output diagnostics
  refine ⟨faulted, shown, ?_, ?_⟩
  · rw [final, output]
    decide +kernel
  · rw [final, diagnostics]
    decide +kernel

end Machine
end FrameMachine
