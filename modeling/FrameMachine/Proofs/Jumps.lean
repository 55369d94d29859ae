import FrameMachine.Proofs.Blame
import FrameMachine.Proofs.Fault
import FrameMachine.Proofs.Labels

namespace FrameMachine

/-!
# Jumps

The table of labels is consulted in two places.  A conditional jump asks for its label before
it compares anything, and passing control resolves the label of any jump that is taken.  Both
look at a table that was collected before the run and does not change, so what is known about
the collected table holds at every step: a jump that is taken leads to the one instruction that
defines its label, and a program that defines all the labels it mentions never looks for one in
vain.
-/

namespace Role

/-- Whether an instruction of this role passes control to its label, provided that it succeeds.
A conditional jump does if its two values compare as it wants, and these are the values of its
operands or the two topmost values of the stack. -/
def Jumps (instruction : Instruction) (state : State) : Role → Prop
  | .jump | .call => True
  | .jumpIf equal => ∃ left right, instruction.valueAt state.frames 1 = .ok left ∧
      instruction.valueAt state.frames 2 = .ok right ∧ equals left right = .ok equal
  | .jumpIfOnStack equal => ∃ left right rest, state.operands = right :: left :: rest ∧
      equals left right = .ok equal
  | _ => False

end Role

namespace Action

/-- A comparison decides a conditional jump. -/
theorem ensures_jumpIf_decides (program : Program) (instruction : Instruction) (equal : Bool)
    {left right : Value} {state : State} {rest : List Value}
    (stack : state.operands = right :: left :: rest) :
    Ensures (jumpIf program instruction equal) state
      (fun control _ => ∃ name, instruction.labelAt 0 = .ok name ∧
        (control = .toLabel name ∧ equals left right = .ok equal ∨
          control = .next ∧ equals left right ≠ .ok equal))
      (fun _ _ => True) := by
  simp only [ensures_jumpIf, stack, List.cons.injEq, implies_true, and_true]
  rintro name named _ _ _ _ ⟨rfl, rfl, rfl⟩ found compared
  refine ⟨name, named, ?_⟩
  by_cases same : found = equal
  · rw [if_pos same]
    exact Or.inl ⟨rfl, same ▸ compared⟩
  · rw [if_neg same, compared]
    exact Or.inr ⟨rfl, fun wanted => same (Except.ok.inj wanted)⟩

/-- An instruction that can pass control to a label does so exactly if it jumps, and otherwise
goes on. -/
theorem ensures_execute_jumps (site : Site) (instruction : Instruction) {role : Role}
    (passes : role.passesToLabel = true) (state : State) :
    Ensures (execute site instruction role) state
      (fun control _ => ∃ name, instruction.labelAt 0 = .ok name ∧
        (control = .toLabel name ∧ role.Jumps instruction state ∨
          control = .next ∧ ¬role.Jumps instruction state))
      (fun _ _ => True) := by
  cases role with
  | call =>
      simp only [execute, ensures_bind, ensures_require, ensures_pushCall, ensures_pure,
        implies_true, and_true]
      intro name named
      exact ⟨name, named, Or.inl ⟨rfl, trivial⟩⟩
  | jump =>
      simp only [execute, ensures_bind, ensures_require, ensures_pure, implies_true, and_true]
      intro name named
      exact ⟨name, named, Or.inl ⟨rfl, trivial⟩⟩
  | jumpIf equal =>
      simp only [execute, ensures_bind, ensures_pushSymbol, implies_true, and_true]
      intro left first right second
      refine (ensures_jumpIf_decides site.program instruction equal rfl).imp ?_ fun _ _ _ => trivial
      rintro control after ⟨name, named, taken | skipped⟩
      · exact ⟨name, named, Or.inl ⟨taken.1, left, right, first, second, taken.2⟩⟩
      · refine ⟨name, named, Or.inr ⟨skipped.1, ?_⟩⟩
        rintro ⟨_, _, sameFirst, sameSecond, wanted⟩
        cases first.symm.trans sameFirst
        cases second.symm.trans sameSecond
        exact skipped.2 wanted
  | jumpIfOnStack equal =>
      rw [execute]
      rcases stack : state.operands with _ | ⟨right, _ | ⟨left, rest⟩⟩
      · simp [ensures_jumpIf, stack]
      · simp [ensures_jumpIf, stack]
      · refine (ensures_jumpIf_decides site.program instruction equal stack).imp ?_
          fun _ _ _ => trivial
        rintro control after ⟨name, named, taken | skipped⟩
        · exact ⟨name, named, Or.inl ⟨taken.1, left, right, rest, stack, taken.2⟩⟩
        · refine ⟨name, named, Or.inr ⟨skipped.1, ?_⟩⟩
          rintro ⟨_, _, _, same, wanted⟩
          cases stack.symm.trans same
          exact skipped.2 wanted
  | _ => cases passes

end Action

namespace Machine

variable {machine : Machine} {position : Nat} {instruction : Instruction}

theorem continueAt_of_at? {program : Program} {target : Nat}
    (fetched : program.at? target = some instruction) :
    continueAt program target = .running target :=
  if_pos (List.getElem?_eq_some_iff.mp fetched).1

/-- A jump that does not fault leads to the position of its label if it is taken, and on to the
next instruction if it is not. -/
theorem step_of_jump (running : machine.status = .running position)
    (fetched : machine.program.at? position = some instruction)
    (passes : instruction.opcode.role.passesToLabel = true)
    (unfaulted : ∀ fault, machine.step.status ≠ .faulted fault) :
    (instruction.opcode.role.Jumps instruction machine.state →
      ∃ name target, instruction.labelAt 0 = .ok name ∧
        machine.program.labels.resolve name = .ok target ∧
        machine.step.status = continueAt machine.program target) ∧
    (¬instruction.opcode.role.Jumps instruction machine.state →
      machine.step.status = continueAt machine.program (position + 1)) := by
  have execution := Action.ensures_execute_jumps (machine.siteAt position) instruction passes
    machine.state
  rcases transfer_rule running fetched execution unfaulted with
    ⟨control, ⟨name, named, ⟨rfl, taken⟩ | ⟨rfl, skipped⟩⟩, passed⟩
  · refine ⟨fun _ => ?_, fun skipped => absurd taken skipped⟩
    rw [transfer] at passed
    cases found : machine.program.labels.resolve name with
    | error error => simp [found] at passed
    | ok target =>
        rw [found] at passed
        exact ⟨name, target, named, found, (Except.ok.inj passed).symm⟩
  · exact ⟨fun taken => absurd taken skipped, fun _ => (Except.ok.inj passed).symm⟩

/-- A step that looks for a label in vain executes an instruction with an undefined label for
its first operand. -/
theorem exists_undefined_of_fault {fault : Fault} (running : machine.status.isRunning = true)
    (faulted : machine.step.status = .faulted fault) (blamed : fault.error.kind = .undefinedLabel) :
    ∃ position instruction name, machine.program.at? position = some instruction ∧
      instruction.labelAt 0 = .ok name ∧ machine.program.labels.contains name = false := by
  cases status : machine.status with
  | halted code => simp [status, Status.isRunning] at running
  | faulted before => simp [status, Status.isRunning] at running
  | running position =>
      cases fetched : machine.program.at? position with
      | none => simp [step, status, fetched] at faulted
      | some instruction =>
          have calls := Action.ensures_execute_calls (machine.siteAt position) instruction
            instruction.opcode.role machine.state
          have blames := Action.ensures_execute_blames (machine.siteAt position) instruction
            instruction.opcode.role machine.state
          rcases fault_rule status fetched (calls.and blames) faulted with
            ⟨-, cause⟩ | ⟨name, ⟨effect, -⟩, undefined⟩
          · rcases cause.exists_undefined blamed with ⟨name, named, undefined⟩
            exact ⟨position, instruction, name, fetched, named, undefined⟩
          · exact ⟨position, instruction, name, fetched, effect.toLabel.2, undefined⟩

end Machine

namespace Program

variable {instructions : List Instruction} {program : Program}

/-- At most one position has the label of a given name. -/
theorem LabelAt.unique (built : ofInstructions instructions = .ok program) {name : String}
    {first second : Nat} (here : program.LabelAt name first) (there : program.LabelAt name second) :
    first = second := by
  have resolved := (resolve_eq_ok_iff_labelAt built name first).mpr here
  have alsoResolved := (resolve_eq_ok_iff_labelAt built name second).mpr there
  exact Except.ok.inj (resolved.symm.trans alsoResolved)

/-- Every label that an instruction of the program mentions stands somewhere in it. -/
def DefinesAllLabels (program : Program) : Prop :=
  ∀ instruction ∈ program.instructions, ∀ name, .label name ∈ instruction.operands →
    ∃ position, program.LabelAt name position

/-- A program that defines all its labels has those that its instructions ask for. -/
theorem DefinesAllLabels.contains (defined : program.DefinesAllLabels)
    (built : ofInstructions instructions = .ok program) {position : Nat}
    {instruction : Instruction} {name : String}
    (fetched : program.at? position = some instruction)
    (named : instruction.labelAt 0 = .ok name) : program.labels.contains name = true := by
  have mentioned : .label name ∈ instruction.operands :=
    List.mem_of_getElem? (Instruction.labelAt_eq_ok_iff.mp named)
  rcases defined instruction (List.mem_of_getElem? fetched) name mentioned with ⟨target, stands⟩
  exact LabelTable.contains_iff_exists_resolve.mpr
    ⟨target, (resolve_eq_ok_iff_labelAt built name target).mpr stands⟩

/-- Labels are found where they stand, and jumps lead there.  Instructions make a program exactly
if every label has a name and no two labels have the same one.  The table of a program then
resolves a name to the position of the instruction that defines it and contains the names that
can be resolved, and it has as many entries as the program has labels and as the list of their
names, in which none is repeated.

In every run of the program, from whatever state, a call, a jump or a conditional jump that does
not fault passes control to the only position with its label if it is taken, and to the next
instruction if not.  If the program defines all the labels that it mentions, then no step
faults for want of a label. -/
theorem labels_resolve_and_jumps_arrive (instructions : List Instruction) :
    ((∃ program, ofInstructions instructions = .ok program) ↔
      (∀ instruction ∈ instructions, instruction.IsNamed) ∧
        instructions.Pairwise Instruction.LabelsDiffer) ∧
    ∀ program, ofInstructions instructions = .ok program →
      program.instructions = instructions ∧
      (∀ name position, program.labels.resolve name = .ok position ↔
        program.LabelAt name position) ∧
      (∀ name, program.labels.contains name = true ↔
        ∃ position, program.labels.resolve name = .ok position) ∧
      program.labels.size = program.labelCount ∧
      program.labels.size = program.labelNames.length ∧ program.labelNames.Nodup ∧
      ∀ initial : Machine, initial.program = program → ∀ count,
        let machine := Machine.step^[count] initial
        (∀ position instruction, machine.status = .running position →
          program.at? position = some instruction →
          instruction.opcode.role.passesToLabel = true →
          (∀ fault, machine.step.status ≠ .faulted fault) →
          (instruction.opcode.role.Jumps instruction machine.state →
            ∃ name target, instruction.labelAt 0 = .ok name ∧ program.LabelAt name target ∧
              (∀ other, program.LabelAt name other → other = target) ∧
              machine.step.status = .running target) ∧
          (¬instruction.opcode.role.Jumps instruction machine.state →
            machine.step.status = Machine.continueAt program (position + 1))) ∧
        (program.DefinesAllLabels → machine.status.isRunning = true →
          ∀ fault, machine.step.status = .faulted fault →
            fault.error.kind ≠ .undefinedLabel) := by
  refine ⟨exists_ofInstructions_iff, fun program built => ?_⟩
  have resolves := resolve_eq_ok_iff_labelAt built
  refine ⟨instructions_of_ofInstructions built, resolves,
    fun name => LabelTable.contains_iff_exists_resolve, size_labels built,
    (size_labels built).trans (length_labelNames built).symm, nodup_labelNames built, ?_⟩
  intro initial same count machine
  have sameProgram : machine.program = program :=
    (Machine.iterate_program count initial).1.trans same
  constructor
  · intro position instruction running fetched passes unfaulted
    have fetchedHere : machine.program.at? position = some instruction := by
      rw [sameProgram]
      exact fetched
    rcases Machine.step_of_jump running fetchedHere passes unfaulted with ⟨taken, skipped⟩
    rw [sameProgram] at taken skipped
    refine ⟨fun jumps => ?_, skipped⟩
    rcases taken jumps with ⟨name, target, named, resolved, continued⟩
    have stands := (resolves name target).mp resolved
    rcases stands with ⟨label, found, defined⟩
    refine ⟨name, target, named, ⟨label, found, defined⟩, ?_, ?_⟩
    · intro other alsoStands
      exact alsoStands.unique built ⟨label, found, defined⟩
    · rw [continued, Machine.continueAt_of_at? found]
  · intro defined running fault faulted blamed
    rcases Machine.exists_undefined_of_fault running faulted blamed with
      ⟨position, instruction, name, fetched, named, undefined⟩
    rw [sameProgram] at fetched undefined
    rw [defined.contains built fetched named] at undefined
    cases undefined

/-- A conditional jump over an exit: the two values are equal, and the label stands at the end. -/
theorem labels_resolve_and_jumps_arrive_equal :
    let instructions : List Instruction :=
      [⟨1, .jumpIfEq, [.label "end", .literal .nil, .literal .nil]⟩,
        ⟨2, .exit, [.literal (.int 7)]⟩, ⟨3, .label, [.label "end"]⟩]
    let program : Program := ⟨instructions, ⟨[("end", 2)]⟩⟩
    let machine := Machine.start program (.ofBytes []) .unlimited .unlimited false none
    ofInstructions instructions = .ok program ∧ program.LabelAt "end" 2 ∧
      program.labels.size = 1 ∧ program.labelNames.length = 1 ∧ program.DefinesAllLabels ∧
      (∃ name target, name = "end" ∧ program.LabelAt name target ∧
        machine.step.status = .running target) ∧
      ∀ fault, machine.step.status = .faulted fault → fault.error.kind ≠ .undefinedLabel := by
  intro instructions program machine
  have built : ofInstructions instructions = .ok program := by decide +kernel
  rcases (labels_resolve_and_jumps_arrive instructions).2 program built with
    ⟨-, resolves, -, counted, listed, -, runs⟩
  rcases runs machine rfl 0 with ⟨jumps, defined⟩
  have stands : program.LabelAt "end" 2 := (resolves "end" 2).mp (by decide +kernel)
  have count : program.labelCount = 1 := by decide +kernel
  have definesAll : program.DefinesAllLabels := by
    intro instruction member name mentioned
    simp only [program, instructions, List.mem_cons, List.not_mem_nil, or_false] at member
    have same : name = "end" := by
      rcases member with rfl | rfl | rfl
      · simpa using mentioned
      · simp at mentioned
      · simpa using mentioned
    exact ⟨2, same ▸ stands⟩
  have unfaulted : ∀ fault, machine.step.status ≠ .faulted fault := by
    have status : machine.step.status = .running 2 := by decide +kernel
    intro fault
    rw [status]
    nofun
  rcases jumps 0 _ rfl rfl rfl unfaulted with ⟨taken, -⟩
  rcases taken ⟨.nil, .nil, rfl, rfl, rfl⟩ with ⟨name, target, named, there, -, status⟩
  refine ⟨built, stands, counted.trans count, (listed.symm.trans counted).trans count, definesAll,
    ⟨name, target, ?_, there, status⟩, defined definesAll rfl⟩
  exact (Except.ok.inj named).symm

end Program
end FrameMachine
