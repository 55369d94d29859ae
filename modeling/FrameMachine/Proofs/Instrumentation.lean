import FrameMachine.Proofs.Footprint
import FrameMachine.Proofs.Ranking

namespace FrameMachine

/-!
# Instrumentation only observes

A machine can be asked to keep statistics and to write debugging output.  Neither has any
influence on what the program does.  Statistics are kept beside the state, and no instruction
sees them.  Debugging output goes to a stream that is never read, and a value that is to be
printed is looked up even if nothing is printed, so that the option does not decide whether
the look-up fails.

Every run is compared with the run that is observed in no way: the silent one without
statistics.  Two runs with different instrumentation then agree because each agrees with
that one.  A stream that refuses to take a text would end the run of the machine which
writes, and only that one, so the diagnostics must be a stream that cannot fail.
-/

/-- A stream that cannot fail takes every text. -/
theorem OutputStream.exists_write {stream : OutputStream} (unfailing : stream.canFail = false)
    (text : String) : ∃ after, stream.write text = .ok after ∧ after.canFail = false := by
  cases ending : stream.write text with
  | ok after => exact ⟨after, rfl, (canFail_of_write ending).trans unfailing⟩
  | error cause =>
      rw [canFail_of_refusal ending] at unfailing
      cases unfailing

namespace Coupling

/-- Printing a text that depends on the state agrees with printing nothing. -/
theorem agrees_silence (text : State → String) :
    (exceptDiagnostics Unfailing).Agrees
      (get >>= fun state => Action.writeDiagnostic (text state)) (pure ()) := by
  rintro left _ ⟨diagnostics, rfl, leftUnfailing, rightUnfailing⟩
  rcases OutputStream.exists_write leftUnfailing (text left) with ⟨after, written, unfailing⟩
  rw [Action.ensures_get_bind, Action.ensures_writeDiagnostic, written]
  constructor
  · intro output same
    cases same
    exact ⟨rfl, diagnostics, rfl, unfailing, rightUnfailing⟩
  · intro cause impossible
    cases impossible

/-- An instruction that may print agrees with the same instruction where nothing is printed. -/
theorem agrees_execute_silent {site site' : Site} (silent : site'.debugOutput = false)
    (instruction : Instruction) {role : Role} (elsewhere : role.isLocal = false) :
    (exceptDiagnostics Unfailing).Agrees (Action.execute site instruction role)
      (Action.execute site' instruction role) := by
  cases option : site.debugOutput with
  | false =>
      -- Neither side prints.
      apply agrees_execute_elsewhere (silent.trans option.symm) instruction elsewhere
      · exact fun text => writesAlike_unfailing text text
      · exact fun _ _ => writesAlike_unfailing
  | true =>
      cases role with
      | clear =>
          refine Agrees.next ?_
          rintro left _ ⟨diagnostics, rfl, same⟩
          exact ⟨rfl, diagnostics, rfl, same⟩
      | debugPrint =>
          unfold Action.execute
          rw [option, silent]
          apply ((exceptDiagnostics Unfailing).agrees_symbolValue instruction 0).bind
          intro value
          exact (agrees_silence fun _ => value.output).next
      | debugBreak =>
          unfold Action.execute
          rw [option, silent]
          exact (agrees_silence fun state =>
            state.dump site.program site.position site.executed).next
      | _ => cases elsewhere

end Coupling

/-! ## Runs of one program -/

theorem Program.renumber_id (program : Program) : program.renumber id = program := by
  have same : Instruction.renumber id = id := rfl
  rw [renumber, same, List.map_id]

theorem Status.renumber_id (status : Status) : status.renumber id = status := by
  cases status <;> rfl

/-- Only an instruction of a machine whose debugging output is wanted writes diagnostics. -/
theorem Role.DiagnosticEffect.silent {site : Site} {instruction : Instruction}
    {before after : State} {role : Role}
    (effect : role.DiagnosticEffect site instruction before after)
    (silent : site.debugOutput = false) : after.diagnostics = before.diagnostics := by
  cases role with
  | debugPrint =>
      rcases effect with ⟨value, -, written⟩
      rwa [silent] at written
  | debugBreak =>
      unfold DiagnosticEffect at effect
      rwa [silent] at effect
  | _ => exact effect

namespace Machine

/-! ## Statistics -/

/-- The machine without its statistics. -/
def unprofiled (machine : Machine) : Machine :=
  { machine with profile := none }

/-- A step is the same step without statistics. -/
theorem step_unprofiled (machine : Machine) :
    machine.step.unprofiled = machine.unprofiled.step := by
  cases status : machine.status with
  | running position =>
      have alsoStatus : machine.unprofiled.status = .running position := status
      cases fetched : machine.program.at? position with
      | none =>
          have alsoFetched : machine.unprofiled.program.at? position = none := fetched
          rw [step, step, status, alsoStatus]
          simp only [fetched, alsoFetched]
          rfl
      | some instruction =>
          have alsoFetched : machine.unprofiled.program.at? position = some instruction := fetched
          rw [step_of_running status fetched, step_of_running alsoStatus alsoFetched]
          -- No instruction sees the statistics.
          have sameSite : machine.unprofiled.siteAt position = machine.siteAt position := rfl
          cases ending : (perform (machine.siteAt position) instruction).run machine.state with
          | ok next after =>
              have alsoEnding := ending
              rw [← sameSite] at alsoEnding
              rw [executeAt_of_ok ending, executeAt_of_ok alsoEnding]
              rfl
          | error error after =>
              have alsoEnding := ending
              rw [← sameSite] at alsoEnding
              rw [executeAt_of_error ending, executeAt_of_error alsoEnding]
              rfl
  | halted code =>
      have alsoStatus : machine.unprofiled.status = .halted code := status
      rw [step, step, status, alsoStatus]
  | faulted fault =>
      have alsoStatus : machine.unprofiled.status = .faulted fault := status
      rw [step, step, status, alsoStatus]

/-- A run is the same run without statistics. -/
theorem iterate_unprofiled (count : Nat) (machine : Machine) :
    (step^[count] machine).unprofiled = step^[count] machine.unprofiled :=
  Function.Semiconj.iterate_right step_unprofiled count machine

variable (program : Program) (input : InputStream) (output diagnostics : OutputStream)

/-- The statistics that a run starts with do not show in its state. -/
theorem state_iterate_unprofiled (debugOutput : Bool) (profile : Option Profile) (count : Nat) :
    (step^[count] (start program input output diagnostics debugOutput profile)).state =
      (step^[count] (start program input output diagnostics debugOutput none)).state := by
  have sameState := congrArg Machine.state
    (iterate_unprofiled count (start program input output diagnostics debugOutput profile))
  exact sameState

/-! ## Debugging output -/

/-- With diagnostics that cannot fail, every run follows the one that is not observed. -/
theorem follows_unobserved (unfailing : diagnostics.canFail = false) (debugOutput : Bool)
    (profile : Option Profile) (count : Nat) :
    Follows (.exceptDiagnostics Coupling.Unfailing) id
      (step^[count] (start program input output diagnostics debugOutput profile))
      (step^[count] (start program input output diagnostics false none)) := by
  have together : Follows (.exceptDiagnostics Coupling.Unfailing) id
      (start program input output diagnostics debugOutput profile)
      (start program input output diagnostics false none) :=
    { program := program.renumber_id.symm
      state := ⟨diagnostics, rfl, unfailing, unfailing⟩
      status := (Status.renumber_id _).symm
      executed := rfl }
  apply together.iterate_together
  · exact fun _ => id
  · intro index _ position instruction _ _ elsewhere
    apply Coupling.agrees_execute_silent _ instruction elsewhere
    exact (iterate_program index _).2

/-- A part of the state that does not show the diagnostics is the same on both sides. -/
theorem Follows.part_eq {alike : OutputStream → OutputStream → Prop} {rename : Nat → Nat}
    {first second : Machine} (follows : Follows (.exceptDiagnostics alike) rename first second)
    {α : Type} (part : State → α)
    (blind : ∀ state diagnostics, part { state with diagnostics := diagnostics } = part state) :
    part second.state = part first.state := by
  rw [follows.state_eq]
  exact blind first.state second.state.diagnostics

/-- A silent machine writes no diagnostics in a step. -/
theorem diagnostics_step_of_silent {machine : Machine} (silent : machine.debugOutput = false) :
    machine.step.state.diagnostics = machine.state.diagnostics := by
  rcases step_state_or_running machine with same | ⟨position, instruction, running, fetched⟩
  · rw [same]
  · have effect := Action.ensures_execute_diagnostics (machine.siteAt position) instruction
      instruction.opcode.role machine.state
    apply step_state (motive := fun after => after.diagnostics = machine.state.diagnostics)
      running fetched
    exact effect.imp (fun _ _ written => written.silent silent) fun _ _ same => same

theorem diagnostics_iterate_of_silent {machine : Machine} (silent : machine.debugOutput = false)
    (count : Nat) : (step^[count] machine).state.diagnostics = machine.state.diagnostics := by
  induction count with
  | zero => rfl
  | succ count inductionHypothesis =>
      rw [Function.iterate_succ_apply', diagnostics_step_of_silent, inductionHypothesis]
      exact (iterate_program count machine).2.trans silent

/-- Instrumentation does not change behaviour.  Take any two runs of a program on the same
streams, with debugging output wanted or not and with statistics kept or not, and let the
diagnostics be a stream that cannot fail.  After every number of steps the two machines have
the same status, frames, operand stack and call stack, have executed as many instructions, and
have left and written the same.  A machine whose debugging output is not wanted writes no
diagnostics, and what the others write there does not depend on the statistics. -/
theorem instrumentation_only_observes (program : Program) (input : InputStream)
    (output diagnostics : OutputStream) (count : Nat) :
    let run (debugOutput : Bool) (profile : Option Profile) : Machine :=
      step^[count] (start program input output diagnostics debugOutput profile)
    (diagnostics.canFail = false → ∀ debugOutput debugOutput' profile profile',
      let first := run debugOutput profile
      let second := run debugOutput' profile'
      second.status = first.status ∧ second.state.frames = first.state.frames ∧
      second.state.operands = first.state.operands ∧ second.state.calls = first.state.calls ∧
      second.executed = first.executed ∧ second.state.input = first.state.input ∧
      second.state.output = first.state.output) ∧
    (∀ profile, (run false profile).state.diagnostics = diagnostics) ∧
    ∀ debugOutput profile profile',
      (run debugOutput profile').state.diagnostics =
        (run debugOutput profile).state.diagnostics := by
  intro run
  refine ⟨?_, ?_, ?_⟩
  · intro unfailing debugOutput debugOutput' profile profile' first second
    have firstFollows := follows_unobserved program input output diagnostics unfailing debugOutput
      profile count
    have secondFollows := follows_unobserved program input output diagnostics unfailing debugOutput'
      profile' count
    have status : second.status = first.status := by
      have unobserved := secondFollows.status.symm.trans firstFollows.status
      rwa [Status.renumber_id, Status.renumber_id] at unobserved
    have executed : second.executed = first.executed :=
      secondFollows.executed.symm.trans firstFollows.executed
    have through {α : Type} (part : State → α)
        (blind : ∀ state diagnostics, part { state with diagnostics := diagnostics } = part state) :
        part second.state = part first.state :=
      (secondFollows.part_eq part blind).symm.trans (firstFollows.part_eq part blind)
    exact ⟨status, through State.frames fun _ _ => rfl, through State.operands fun _ _ => rfl,
      through State.calls fun _ _ => rfl, executed, through State.input fun _ _ => rfl,
      through State.output fun _ _ => rfl⟩
  · intro profile
    exact diagnostics_iterate_of_silent rfl count
  · intro debugOutput profile profile'
    have first :=
      state_iterate_unprofiled program input output diagnostics debugOutput profile count
    have second :=
      state_iterate_unprofiled program input output diagnostics debugOutput profile' count
    exact congrArg State.diagnostics (second.trans first.symm)

/-- A program that prints a value and a dump, writes a value and then faults, with everything
switched on and with everything switched off. -/
theorem instrumentation_only_observes_faulting :
    let program : Program :=
      ⟨[⟨1, .dprint, [.literal (.int 7)]⟩, ⟨2, .breakpoint, []⟩,
        ⟨3, .write, [.literal (.bool true)]⟩, ⟨4, .adds, []⟩], .empty⟩
    let loud := step^[4] (start program (.ofBytes []) .unlimited .unlimited true (some .empty))
    let silent := step^[4] (start program (.ofBytes []) .unlimited .unlimited false none)
    loud.status = .faulted ⟨⟨3, 4, .adds⟩, .emptyOperandStack⟩ ∧ loud.state.output.text = "true" ∧
      loud.state.diagnostics.text ≠ "" ∧ silent.status = loud.status ∧
      silent.state.output = loud.state.output ∧ silent.executed = loud.executed ∧
      silent.state.diagnostics.text = "" := by
  intro program loud silent
  have faulted : loud.status = .faulted ⟨⟨3, 4, .adds⟩, .emptyOperandStack⟩ := by
    decide +kernel
  have written : loud.state.output.text = "true" := by
    decide +kernel
  have printed : loud.state.diagnostics.text ≠ "" := by
    decide +kernel
  rcases instrumentation_only_observes program (.ofBytes []) .unlimited .unlimited 4 with
    ⟨same, quiet, -⟩
  rcases same rfl true false (some .empty) none with
    ⟨status, -, -, -, executed, -, output⟩
  exact ⟨faulted, written, printed, status, output, executed,
    congrArg OutputStream.text (quiet none)⟩

end Machine
end FrameMachine
