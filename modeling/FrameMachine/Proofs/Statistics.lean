import FrameMachine.Proofs.Trace
import Mathlib.Algebra.BigOperators.Group.List.Basic
import Mathlib.Algebra.GroupWithZero.Nat

namespace FrameMachine

/-!
# Statistics are those of the run

A profile is kept while a machine runs.  An instruction is recorded before it is executed, so
that one which faults is counted too, and the depths of the stacks are noted after it, when
what it needed in between is gone again, and only if it did not fault.  A run is therefore
listed here as its executions: the opcode of each, with the state behind it unless there was a
fault.  The profile of a machine is what these executions, noted one after the other, make of
the empty profile, and everything it says is a property of that list.
-/

/-- An instruction that was executed: its opcode, and the state behind it unless it
faulted. -/
structure Execution where
  opcode : Opcode
  reached? : Option State

/-! ## Counting opcodes -/

namespace Opcode

/-- The table lists an opcode once. -/
theorem count_all (opcode : Opcode) : all.count opcode = 1 := by
  have once : ∀ opcode ∈ all, all.count opcode = 1 := by
    decide +kernel
  exact once opcode (mem_all opcode)

theorem count_filter_all (selects : Opcode → Bool) (opcode : Opcode) :
    (all.filter selects).count opcode = if selects opcode then 1 else 0 := by
  by_cases selected : selects opcode = true
  · rw [List.count_filter selected, count_all, if_pos selected]
  · rw [if_neg selected]
    apply List.count_eq_zero_of_not_mem
    intro member
    exact selected (List.mem_filter.mp member).2

/-- Counting one opcode after the other counts all that are selected. -/
theorem sum_count_filter_all (selects : Opcode → Bool) (opcodes : List Opcode) :
    ((all.filter selects).map fun opcode => opcodes.count opcode).sum = opcodes.countP selects := by
  have single (table : List Opcode) (first : Opcode) :
      (table.map fun opcode => if first == opcode then 1 else 0).sum = table.count first := by
    induction table with
    | nil => rfl
    | cons opcode table inductionHypothesis =>
        rw [List.map_cons, List.sum_cons, inductionHypothesis, List.count_cons, Nat.add_comm,
          Bool.beq_comm]
  induction opcodes with
  | nil => simp
  | cons first opcodes inductionHypothesis =>
      simp only [List.count_cons, List.sum_map_add, inductionHypothesis, single, count_filter_all,
        List.countP_cons]

end Opcode

/-! ## Profiles -/

namespace Profile

variable (profile : Profile) (run : List Execution) (execution : Execution)

/-- The profile with an execution taken into account. -/
def note : Profile :=
  match execution.reached? with
  | some state =>
      (profile.record execution.opcode).noteDepths state.operands.length state.frames.depth
  | none => profile.record execution.opcode

/-- The profile of a list of executions. -/
def ofRun : Profile :=
  run.foldl note empty

theorem ofRun_concat : ofRun (run ++ [execution]) = (ofRun run).note execution := by
  rw [ofRun, List.foldl_append]
  rfl

/-- The sum of the counts of some opcodes. -/
def tally (selects : Opcode → Bool) : Nat :=
  (profile.counts.filter fun entry => selects entry.1).foldr (fun entry sum => entry.2 + sum) 0

/-- Noting an execution records its opcode, whether or not it faulted. -/
theorem total_note : (profile.note execution).total = profile.total + 1 := by
  unfold note
  split <;> rfl

theorem counts_note :
    (profile.note execution).counts = increment execution.opcode profile.counts := by
  unfold note
  split <;> rfl

/-- A depth is noted for the state behind an execution, if there is one. -/
theorem operandDepth_note :
    (profile.note execution).operandDepth =
      (execution.reached?.toList.map fun state => state.operands.length).foldl max
        profile.operandDepth := by
  unfold note
  split <;> rename_i reached <;> rw [reached] <;> rfl

theorem localDepth_note :
    (profile.note execution).localDepth =
      (execution.reached?.toList.map fun state => state.frames.depth).foldl max
        profile.localDepth := by
  unfold note
  split <;> rename_i reached <;> rw [reached] <;> rfl

theorem lookup_increment (opcode other : Opcode) (counts : List (Opcode × Nat)) :
    ((increment opcode counts).lookup other).getD 0 =
      (counts.lookup other).getD 0 + if opcode = other then 1 else 0 := by
  induction counts with
  | nil =>
      by_cases same : opcode = other
      · simp [increment, same]
      · simp [increment, same, List.lookup_cons, beq_false_of_ne (Ne.symm same)]
  | cons entry counts inductionHypothesis =>
      rcases entry with ⟨first, found⟩
      rw [increment]
      by_cases here : first = opcode
      · by_cases same : opcode = other
        · simp [here, same]
        · simp [here, same, List.lookup_cons, beq_false_of_ne (Ne.symm same)]
      · rw [if_neg here, List.lookup_cons, List.lookup_cons]
        by_cases same : other = first
        · have different : opcode ≠ other := fun equal => here (same.symm.trans equal.symm)
          rw [same, beq_self_eq_true, ← same, if_neg different]
          rfl
        · simp [beq_false_of_ne same, inductionHypothesis]

theorem tally_increment (selects : Opcode → Bool) (opcode : Opcode) (counts : List (Opcode × Nat)) :
    ((increment opcode counts).filter fun entry => selects entry.1).foldr
        (fun entry sum => entry.2 + sum) 0 =
      (counts.filter fun entry => selects entry.1).foldr (fun entry sum => entry.2 + sum) 0 +
        if selects opcode then 1 else 0 := by
  induction counts with
  | nil => cases selected : selects opcode <;> simp [increment, selected]
  | cons entry counts inductionHypothesis =>
      rw [increment]
      by_cases here : entry.1 = opcode
      · cases selected : selects opcode <;> simp [here, selected]
        omega
      · cases selected : selects entry.1 <;> simp [here, selected, inductionHypothesis]
        omega

/-! ## The profile of a list of executions -/

theorem total_ofRun : (ofRun run).total = run.length := by
  induction run using List.reverseRecOn with
  | nil => rfl
  | append_singleton run execution inductionHypothesis =>
      rw [ofRun_concat, total_note, inductionHypothesis, List.length_append, List.length_singleton]

theorem count_ofRun (opcode : Opcode) :
    (ofRun run).count opcode = (run.map Execution.opcode).count opcode := by
  induction run using List.reverseRecOn with
  | nil => rfl
  | append_singleton run execution inductionHypothesis =>
      rw [ofRun_concat, count, counts_note, lookup_increment, ← count, inductionHypothesis,
        List.map_append, List.count_append]
      simp [List.count_cons]

theorem tally_ofRun (selects : Opcode → Bool) :
    (ofRun run).tally selects = (run.map Execution.opcode).countP selects := by
  induction run using List.reverseRecOn with
  | nil => rfl
  | append_singleton run execution inductionHypothesis =>
      rw [ofRun_concat, tally, counts_note, tally_increment, ← tally, inductionHypothesis,
        List.map_append, List.countP_append]
      simp [List.countP_cons]

/-- The sum of the counts of some opcodes is what each of them contributes. -/
theorem tally_eq_sum (selects : Opcode → Bool) :
    (ofRun run).tally selects = ((Opcode.all.filter selects).map (ofRun run).count).sum := by
  have counts : (ofRun run).count = fun opcode => (run.map Execution.opcode).count opcode :=
    funext (count_ofRun run)
  rw [tally_ofRun, counts, Opcode.sum_count_filter_all]

/-- A depth that is noted for every state that was reached is in the end the greatest. -/
theorem depth_ofRun {depth : Profile → Nat} {measure : State → Nat} (start : depth empty = 0)
    (noted : ∀ profile execution, depth (note profile execution) =
      (execution.reached?.toList.map measure).foldl max (depth profile)) :
    depth (ofRun run) = ((run.filterMap Execution.reached?).map measure).max?.getD 0 := by
  have folded : depth (ofRun run) =
      ((run.filterMap Execution.reached?).map measure).foldl max 0 := by
    induction run using List.reverseRecOn with
    | nil => exact start
    | append_singleton run execution inductionHypothesis =>
        rw [ofRun_concat, noted, inductionHypothesis, List.filterMap_append, List.map_append,
          List.foldl_append]
        cases reached : execution.reached? <;> simp [reached]
  rw [folded, List.foldl_max, Nat.zero_max]

end Profile

namespace Machine

variable {machine : Machine} {position : Nat} {instruction : Instruction}

/-- The state of a machine that has not faulted. -/
def unfaulted? (machine : Machine) : Option State :=
  match machine.status with
  | .faulted _ => none
  | _ => some machine.state

theorem unfaulted?_eq_some (unfaulted : ∀ fault, machine.status ≠ .faulted fault) :
    machine.unfaulted? = some machine.state := by
  unfold unfaulted?
  split
  · rename_i fault faulted
    exact absurd faulted (unfaulted fault)
  · rfl

/-- The execution that the next step makes. -/
def execution? (machine : Machine) : Option Execution :=
  match machine.status with
  | .running position =>
      (machine.program.at? position).map fun instruction =>
        ⟨instruction.opcode, machine.step.unfaulted?⟩
  | _ => none

/-- The executions of a number of steps, in their order. -/
def executions (machine : Machine) (count : Nat) : List Execution :=
  (List.range count).filterMap fun index => (step^[index] machine).execution?

theorem executions_succ (machine : Machine) (count : Nat) :
    machine.executions (count + 1) =
      machine.executions count ++ (step^[count] machine).execution?.toList :=
  filterMap_range_succ _ count

/-! ## One step -/

/-- An instruction that was performed has not faulted. -/
theorem ne_faulted_of_perform {site : Site} {state after : State} {status : Status}
    (performed : (perform site instruction).run state = .ok status after) (fault : Fault) :
    status ≠ .faulted fault := by
  have unfaulted : Action.Ensures (perform site instruction) state
      (fun status _ => ∀ fault, status ≠ .faulted fault) (fun _ _ => True) := by
    rw [ensures_perform]
    unfold Action.Ensures
    split
    · exact ⟨fun _ passed fault => transfer_ne_faulted passed fault, fun _ _ => trivial⟩
    · trivial
  rw [Action.Ensures, performed] at unfaulted
  exact unfaulted fault

/-- A step that executes counts the instruction and notes the execution. -/
theorem step_of_executing (running : machine.status = .running position)
    (fetched : machine.program.at? position = some instruction) :
    machine.step.executed = machine.executed + 1 ∧
      machine.step.profile = machine.profile.map fun profile =>
        profile.note ⟨instruction.opcode, machine.step.unfaulted?⟩ := by
  rw [step_of_running running fetched]
  cases ending : (perform (machine.siteAt position) instruction).run machine.state with
  | ok status after =>
      rw [executeAt_of_ok ending, unfaulted?_eq_some (ne_faulted_of_perform ending)]
      exact ⟨rfl, Option.map_map _ _ machine.profile⟩
  | error error after =>
      rw [executeAt_of_error ending]
      exact ⟨rfl, rfl⟩

/-- Every step counts and notes the execution that it makes, if it makes one. -/
theorem step_notes (machine : Machine) :
    machine.step.executed = machine.executed + machine.execution?.toList.length ∧
      machine.step.profile = machine.profile.map fun profile =>
        machine.execution?.toList.foldl Profile.note profile := by
  unfold execution?
  cases status : machine.status with
  | running position =>
      cases fetched : machine.program.at? position with
      | none =>
          have ended : machine.step = { machine with status := .halted 0 } := by
            rw [step, status]
            simp only [fetched]
          simp [ended, fetched]
      | some instruction =>
          simpa [fetched] using step_of_executing status fetched
  | halted code =>
      rw [step, status]
      simp
  | faulted fault =>
      rw [step, status]
      simp

/-- Where a step that does not fault leads to is where its execution leads to, and otherwise
where the machine was. -/
theorem state_step (unfaulted : ∀ fault, machine.step.status ≠ .faulted fault) :
    machine.step.state = machine.state ∨
      machine.step.state ∈ machine.execution?.toList.filterMap Execution.reached? := by
  rcases step_state_or_running machine with same | ⟨position, instruction, running, fetched⟩
  · exact Or.inl same
  · right
    unfold execution?
    simp [running, fetched, unfaulted?_eq_some unfaulted]

/-! ## Runs -/

theorem iterate_notes (machine : Machine) (count : Nat) :
    (step^[count] machine).executed = machine.executed + (machine.executions count).length ∧
      (step^[count] machine).profile = machine.profile.map fun profile =>
        (machine.executions count).foldl Profile.note profile := by
  induction count with
  | zero => simp [executions]
  | succ count inductionHypothesis =>
      rcases step_notes (step^[count] machine) with ⟨executed, profile⟩
      rw [Function.iterate_succ_apply', executed, profile, inductionHypothesis.1,
        inductionHypothesis.2, executions_succ, List.length_append, Nat.add_assoc, Option.map_map]
      simp [Function.comp_def, List.foldl_append]

/-- A machine that has not faulted is where its run began or where one of its executions has
led to. -/
theorem state_iterate (count : Nat)
    (unfaulted : ∀ fault, (step^[count] machine).status ≠ .faulted fault) :
    (step^[count] machine).state = machine.state ∨
      (step^[count] machine).state ∈ (machine.executions count).filterMap Execution.reached? := by
  induction count with
  | zero => exact Or.inl rfl
  | succ count inductionHypothesis =>
      rw [Function.iterate_succ_apply'] at unfaulted ⊢
      have before : ∀ fault, (step^[count] machine).status ≠ .faulted fault := by
        intro fault faulted
        apply unfaulted fault
        rw [step_of_not_running (congrArg Status.isRunning faulted), faulted]
      rw [executions_succ, List.filterMap_append, List.mem_append]
      rcases state_step unfaulted with same | reached
      · rw [same]
        exact (inductionHypothesis before).imp_right Or.inl
      · exact Or.inr (Or.inr reached)

/-- A depth noted for every state that was reached covers the present one, unless the machine
has faulted. -/
theorem measure_le_of_unfaulted (measure : State → Nat) {count : Nat}
    (start : measure machine.state = 0)
    (unfaulted : ∀ fault, (step^[count] machine).status ≠ .faulted fault) :
    measure (step^[count] machine).state ≤
      (((machine.executions count).filterMap Execution.reached?).map measure).max?.getD 0 := by
  rcases state_iterate count unfaulted with same | reached
  · rw [same, start]
    exact Nat.zero_le _
  · exact List.le_max?_getD_of_mem (List.mem_map_of_mem reached)

/-- The statistics of a run that is profiled from its start are right after any number of steps.
The total is the counter of the machine, the number of executions, and the sum of the counts of
all opcodes; it is at most the number of steps, so that no counter leaves 64 bits in fewer than
`2 ^ 64` steps.  The count of an opcode is the number of its executions, those that faulted
included.  The stack forms are the sum over the opcodes that are stack forms, and no more than
the total.  The two depths are the greatest among the states that successful executions have
led to, or zero if there are none, and as long as the machine has not faulted they cover the
state that it is in. -/
theorem profile_summarizes_run (program : Program) (input : InputStream)
    (output diagnostics : OutputStream) (debugOutput : Bool) (count : Nat) :
    let initial := start program input output diagnostics debugOutput (some .empty)
    let machine := step^[count] initial
    let run := initial.executions count
    let reached := run.filterMap Execution.reached?
    ∃ profile, machine.profile = some profile ∧
    profile.total = machine.executed ∧
    profile.total = run.length ∧ profile.total ≤ count ∧
    profile.total = (Opcode.all.map profile.count).sum ∧
    (∀ opcode, profile.count opcode = (run.map Execution.opcode).count opcode) ∧
    profile.stackForms = ((Opcode.all.filter Opcode.isStackForm).map profile.count).sum ∧
    profile.stackForms ≤ profile.total ∧
    profile.operandDepth = (reached.map fun state => state.operands.length).max?.getD 0 ∧
    profile.localDepth = (reached.map fun state => state.frames.depth).max?.getD 0 ∧
    ((∀ fault, machine.status ≠ .faulted fault) →
      machine.state.operands.length ≤ profile.operandDepth ∧
        machine.state.frames.depth ≤ profile.localDepth) := by
  intro initial machine run reached
  have total := Profile.total_ofRun run
  have operandDepth := Profile.depth_ofRun run rfl Profile.operandDepth_note
  have localDepth := Profile.depth_ofRun run rfl Profile.localDepth_note
  rcases iterate_notes initial count with ⟨executed, profile⟩
  refine ⟨Profile.ofRun run, profile, ?_, total, ?_, ?_, Profile.count_ofRun run,
    Profile.tally_eq_sum run Opcode.isStackForm, ?_, operandDepth, localDepth, ?_⟩
  · exact total.trans (executed.trans (Nat.zero_add _)).symm
  · calc
      (Profile.ofRun run).total = run.length := total
      _ ≤ (List.range count).length := List.length_filterMap_le _ _
      _ = count := List.length_range
  · have everything := Profile.tally_eq_sum run fun _ => true
    rw [Profile.tally_ofRun, List.countP_true, List.length_map, List.filter_true] at everything
    exact total.trans everything
  · calc
      (Profile.ofRun run).stackForms = (run.map Execution.opcode).countP Opcode.isStackForm :=
        Profile.tally_ofRun run Opcode.isStackForm
      _ ≤ (run.map Execution.opcode).length := List.countP_le_length
      _ = (Profile.ofRun run).total := by rw [List.length_map, total]
  · intro unfaulted
    rw [operandDepth, localDepth]
    exact ⟨measure_le_of_unfaulted (fun state => state.operands.length) rfl unfaulted,
      measure_le_of_unfaulted (fun state => state.frames.depth) rfl unfaulted⟩

/-- A push, a definition, a sum and a stack form that finds one operand too few.  All four are
counted.  The two operands that the sum put on the stack for its own use are not noticed, and
neither is the empty stack that the fault left behind. -/
theorem profile_summarizes_run_faulting :
    let program : Program :=
      ⟨[⟨1, .pushs, [.literal (.int 7)]⟩, ⟨2, .defVar, [.var ⟨.global, "x"⟩]⟩,
        ⟨3, .add, [.var ⟨.global, "x"⟩, .literal (.int 1), .literal (.int 2)]⟩,
        ⟨4, .adds, []⟩], .empty⟩
    let initial := start program (.ofBytes []) .unlimited .unlimited true (some .empty)
    let machine := step^[5] initial
    machine.status = .faulted ⟨⟨3, 4, .adds⟩, .emptyOperandStack⟩ ∧
      ∃ profile, machine.profile = some profile ∧ profile.total = 4 ∧ profile.count .adds = 1 ∧
        profile.stackForms ≤ 4 ∧ profile.operandDepth = 1 ∧ profile.localDepth = 0 := by
  intro program initial machine
  have faulted : machine.status = .faulted ⟨⟨3, 4, .adds⟩, .emptyOperandStack⟩ := by
    decide +kernel
  rcases profile_summarizes_run program (.ofBytes []) .unlimited .unlimited true 5 with
    ⟨profile, kept, -, total, -, -, counts, -, stackForms, operandDepth, localDepth, -⟩
  have four : profile.total = 4 := by
    rw [total]
    decide +kernel
  refine ⟨faulted, profile, kept, four, ?_, four ▸ stackForms, ?_, ?_⟩
  · rw [counts]
    decide +kernel
  · rw [operandDepth]
    decide +kernel
  · rw [localDepth]
    decide +kernel

end Machine
end FrameMachine
