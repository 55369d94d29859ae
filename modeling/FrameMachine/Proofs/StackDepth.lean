import FrameMachine.Proofs.ConditionalJumps
import FrameMachine.Proofs.Trace

namespace FrameMachine

/-!
# The depth of the two stacks

Three groups of opcodes take values from the operand stack that they have not put there: those
that take one value, the operations on the two topmost values, and the jumps that compare these.
All other opcodes with operands use the same stack for their own purposes, and it is deep enough
for them whatever it holds.  An operand stack that is too short is therefore reported by the
three groups alone, and by them whenever it is too short, except that a jump asks for its label
first.  An empty call stack is reported by a return.

What an instruction does to the depth of the operand stack, if it succeeds, depends on its opcode
and on nothing else.
-/

namespace Opcode

/-- The opcodes that take one value from the operand stack. -/
def takingOne : List Opcode :=
  [.pops, .nots, .int2chars, .int2floats, .float2ints]

/-- The opcodes of operations on the two topmost values of the operand stack. -/
def binaryStackForms : List Opcode :=
  [.adds, .subs, .muls, .idivs, .divs, .lts, .gts, .eqs, .ands, .ors, .stri2ints]

/-- The opcodes of jumps that compare the two topmost values of the operand stack. -/
def jumpsOnStack : List Opcode :=
  [.jumpIfEqs, .jumpIfNeqs]

variable {opcode : Opcode}

theorem mem_takingOne_iff : opcode ∈ takingOne ↔ opcode.role.operandsTaken = 1 := by
  cases opcode <;> simp [takingOne, role, Role.operandsTaken]

theorem mem_binaryStackForms_iff :
    opcode ∈ binaryStackForms ↔ ∃ operation, opcode.role = .binaryOnStack operation := by
  cases opcode <;> simp [binaryStackForms, role]

theorem mem_jumpsOnStack_iff :
    opcode ∈ jumpsOnStack ↔ ∃ equal, opcode.role = .jumpIfOnStack equal := by
  cases opcode <;> simp [jumpsOnStack, role]

end Opcode

/-! ## Stacks that are too short -/

namespace Role

/-- The operand stack has not got the values that the role takes from it.  A jump finds this out
only if its label is there. -/
def Underflows (site : Site) (instruction : Instruction) (state : State) (role : Role) : Prop :=
  state.operands.length < role.operandsTaken ∧
    ∀ equal, role = .jumpIfOnStack equal →
      ∃ name, instruction.labelAt 0 = .ok name ∧ site.program.labels.contains name = true

/-- The three groups of roles that can find too few values. -/
theorem underflows_iff {site : Site} {instruction : Instruction} {state : State} {role : Role} :
    role.Underflows site instruction state ↔
      role.operandsTaken = 1 ∧ state.operands.length = 0 ∨
      (∃ operation, role = .binaryOnStack operation) ∧ state.operands.length < 2 ∨
      (∃ equal, role = .jumpIfOnStack equal) ∧ state.operands.length < 2 ∧
        ∃ name, instruction.labelAt 0 = .ok name ∧ site.program.labels.contains name = true := by
  unfold Underflows
  cases role <;> simp [operandsTaken]

end Role

namespace Action

variable {α : Type} {state : State} {error : Error}

/-- The action ends badly, and with this error. -/
def FailsWith (action : Action α) (state : State) (error : Error) : Prop :=
  Ensures action state (fun _ _ => False) (fun cause _ => cause = error)

/-- What is ensured of errors holds of the error of an action that fails. -/
theorem FailsWith.elim {action : Action α} (fails : FailsWith action state error)
    {success : α → State → Prop} {failure : Error → Prop}
    (ensured : Ensures action state success (fun cause _ => failure cause)) : failure error := by
  have both := Ensures.and fails ensured
  unfold Ensures at both
  split at both
  · exact both.1.elim
  · exact both.1 ▸ both.2

variable {site : Site} {instruction : Instruction} {role : Role}

theorem FailsWith.short
    (fails : FailsWith (execute site instruction role) state .emptyOperandStack) :
    state.operands.length < role.operandsTaken := by
  have blames := fails.elim (ensures_execute_blames site instruction role state)
  cases blames with
  | elsewhere other => cases other
  | operandStack short => exact short

/-- A jump that misses its label does not look at the stack. -/
theorem FailsWith.label_known {equal : Bool}
    (fails : FailsWith (jumpIf site.program instruction equal) state .emptyOperandStack) :
    ∃ name, instruction.labelAt 0 = .ok name ∧ site.program.labels.contains name = true := by
  rcases (ensures_jumpIf site.program instruction equal).mp fails with ⟨found, refused⟩
  cases named : instruction.labelAt 0 with
  | error cause =>
      have refuses : instruction.Refuses 0 cause .label := named
      have other := Instruction.isMechanical_of_refuses refuses
      rw [refused cause named] at other
      cases other
  | ok name =>
      cases known : site.program.labels.contains name with
      | false => cases (found name named).2 known
      | true => exact ⟨name, rfl, known⟩

theorem jumpIf_failsWith_of_underflows {equal : Bool}
    (underflows : (Role.jumpIfOnStack equal).Underflows site instruction state) :
    FailsWith (jumpIf site.program instruction equal) state .emptyOperandStack := by
  rcases underflows with ⟨short, asks⟩
  rcases asks equal rfl with ⟨name, named, known⟩
  refine (ensures_jumpIf site.program instruction equal).mpr ⟨fun label found => ?_, ?_⟩
  · cases named.symm.trans found
    refine ⟨fun _ => ⟨fun right left rest stack => ?_, fun _ _ => rfl, fun _ => rfl⟩, ?_⟩
    · rw [stack, List.length_cons, List.length_cons, Role.operandsTaken] at short
      omega
    · intro missing
      cases known.symm.trans missing
  · intro cause refused
    cases named.symm.trans refused

theorem execute_failsWith_of_underflows (underflows : role.Underflows site instruction state) :
    FailsWith (execute site instruction role) state .emptyOperandStack := by
  have short := underflows.1
  cases role with
  | jumpIfOnStack equal => exact jumpIf_failsWith_of_underflows underflows
  | pop | unaryOnStack =>
      have empty : state.operands = [] := List.length_eq_zero_iff.mp (Nat.lt_one_iff.mp short)
      simp [FailsWith, execute, ensures_bind, ensures_map, ensures_pop, ensures_unary, empty]
  | binaryOnStack operation =>
      rcases stack : state.operands with _ | ⟨only, _ | ⟨_, _⟩⟩
      · simp [FailsWith, execute, ensures_map, ensures_binary, stack]
      · simp [FailsWith, execute, ensures_map, ensures_binary, stack]
      · rw [stack, List.length_cons, List.length_cons, Role.operandsTaken] at short
        omega
  | _ => exact absurd short (Nat.not_lt_zero _)

theorem execute_failsWith_emptyOperandStack_iff :
    FailsWith (execute site instruction role) state .emptyOperandStack ↔
      role.Underflows site instruction state := by
  refine ⟨fun fails => ⟨fails.short, ?_⟩, execute_failsWith_of_underflows⟩
  rintro equal rfl
  exact FailsWith.label_known fails

theorem execute_failsWith_emptyCallStack_iff :
    FailsWith (execute site instruction role) state .emptyCallStack ↔
      role = .ret ∧ state.calls = [] := by
  constructor
  · intro fails
    have blames := fails.elim (ensures_execute_blames site instruction role state)
    cases blames with
    | elsewhere other => cases other
    | callStack returns empty => exact ⟨returns, empty⟩
  · rintro ⟨rfl, empty⟩
    simp [FailsWith, execute, ensures_map, ensures_popCall, empty]

end Action

/-! ## Steps that succeed -/

namespace Role

/-- What becomes of the depth of the operand stack. -/
def DepthChange (before after : Nat) : Role → Prop
  | .push => after = before + 1
  | .pop | .binaryOnStack _ => before = after + 1
  | .jumpIfOnStack _ => before = after + 2
  | .clear => after = 0
  | _ => after = before

theorem OperandEffect.depthChange {instruction : Instruction} {before after : State} {role : Role}
    (effect : role.OperandEffect instruction before after) :
    role.DepthChange before.operands.length after.operands.length := by
  cases role with
  | push =>
      rcases effect with ⟨value, -, pushed⟩
      exact congrArg List.length pushed
  | pop =>
      rcases effect with ⟨value, popped⟩
      exact congrArg List.length popped
  | binaryOnStack operation =>
      rcases effect with ⟨right, left, rest, result, stack, -, replaced⟩
      rw [stack, replaced]
      rfl
  | unaryOnStack operation =>
      rcases effect with ⟨operand, rest, result, stack, -, replaced⟩
      rw [stack, replaced]
      rfl
  | jumpIfOnStack equal =>
      rcases effect with ⟨right, left, stack⟩
      exact congrArg List.length stack
  | _ => exact congrArg List.length effect

/-- All opcodes but those that are about the operand stack keep its depth. -/
theorem DepthChange.same {opcode : Opcode} {before after : Nat}
    (change : opcode.role.DepthChange before after) (other : opcode ∉ [.pushs, .pops, .clears])
    (noOperation : opcode ∉ Opcode.binaryStackForms) (noJump : opcode ∉ Opcode.jumpsOnStack) :
    after = before := by
  simp only [List.mem_cons, List.not_mem_nil, or_false, not_or] at other
  have plays (same : Opcode) (played : opcode.role = same.role) : opcode = same :=
    Opcode.role_injective played
  cases played : opcode.role with
  | push => exact absurd (plays .pushs played) other.1
  | pop => exact absurd (plays .pops played) other.2.1
  | clear => exact absurd (plays .clears played) other.2.2
  | binaryOnStack operation =>
      exact absurd (Opcode.mem_binaryStackForms_iff.mpr ⟨operation, played⟩) noOperation
  | jumpIfOnStack equal => exact absurd (Opcode.mem_jumpsOnStack_iff.mpr ⟨equal, played⟩) noJump
  | _ =>
      rw [played] at change
      exact change

end Role

namespace Machine

variable {machine : Machine} {position : Nat} {instruction : Instruction} {error : Error}

/-- A step faults with an error that does not come from passing control exactly if the execution
of its instruction fails with it. -/
theorem faultsWith_iff_execute (running : machine.status = .running position)
    (fetched : machine.program.at? position = some instruction)
    (other : error.kind ≠ .undefinedLabel) :
    machine.FaultsWith error ↔
      Action.FailsWith (Action.execute (machine.siteAt position) instruction
        instruction.opcode.role) machine.state error := by
  unfold FaultsWith
  rw [step_of_running running fetched, executeAt_iff_ensures (motive := fun after =>
    ∃ location, after.status = .faulted ⟨location, error⟩), ensures_perform, Action.FailsWith]
  constructor
  · intro faults
    refine faults.imp ?_ ?_
    · rintro control after ⟨passed, refused⟩
      cases transferred : transfer machine.program position control with
      | ok status =>
          rcases passed status transferred with ⟨location, faulted⟩
          exact transfer_ne_faulted transferred ⟨location, error⟩ faulted
      | error cause =>
          rcases transfer_eq_error transferred with ⟨name, -, undefined⟩
          rcases refused cause transferred with ⟨location, faulted⟩
          cases faulted
          exact other (congrArg Error.kind undefined)
    · rintro cause after ⟨location, faulted⟩
      cases faulted
      rfl
  · intro fails
    refine Action.Ensures.imp fails (fun _ _ impossible => impossible.elim) ?_
    rintro cause after rfl
    exact ⟨instruction.locationAt position, rfl⟩

/-- Errors of the stacks are exact.  Take a machine before an instruction, in whatever state, with
any program that can be built; the operands of the instruction need not even have been checked.
Its next step faults for want of operands exactly if the opcode takes one value and the operand
stack is empty, or if it applies an operation to the two topmost values and there are fewer, or if
it compares the two topmost values for a jump, the label of the jump stands in the program and
there are fewer values than two.  It faults for want of a return address exactly if it is a return
and the call stack is empty.

If the step succeeds, then the operand stack is deeper by one after a push, less deep by one after
a pop or an operation on the two topmost values, less deep by two after a jump that compares
these, empty after it was cleared, and as deep as before after every other opcode. -/
theorem stack_errors_are_exact {instructions : List Instruction} {machine : Machine}
    {position : Nat} {instruction : Instruction}
    (built : Program.ofInstructions instructions = .ok machine.program)
    (running : machine.status = .running position)
    (fetched : machine.program.at? position = some instruction) :
    let opcode := instruction.opcode
    let before := machine.state.operands.length
    let after := machine.step.state.operands.length
    (machine.FaultsWith .emptyOperandStack ↔
      opcode ∈ Opcode.takingOne ∧ before = 0 ∨
      opcode ∈ Opcode.binaryStackForms ∧ before < 2 ∨
      opcode ∈ Opcode.jumpsOnStack ∧ before < 2 ∧
        ∃ name target, instruction.labelAt 0 = .ok name ∧ machine.program.LabelAt name target) ∧
    (machine.FaultsWith .emptyCallStack ↔ opcode = .ret ∧ machine.state.calls = []) ∧
    (machine.completes? = some (position, instruction) →
      (opcode = .pushs → after = before + 1) ∧
      (opcode = .pops ∨ opcode ∈ Opcode.binaryStackForms → before = after + 1) ∧
      (opcode ∈ Opcode.jumpsOnStack → before = after + 2) ∧
      (opcode = .clears → after = 0) ∧
      (opcode ∉ [.pushs, .pops, .clears] → opcode ∉ Opcode.binaryStackForms →
        opcode ∉ Opcode.jumpsOnStack → after = before)) := by
  intro opcode before after
  refine ⟨?_, ?_, fun completed => ?_⟩
  · have defined (name : String) : machine.program.labels.contains name = true ↔
        ∃ target, machine.program.LabelAt name target := by
      rw [LabelTable.contains_iff_exists_resolve]
      simp only [Program.resolve_eq_ok_iff_labelAt built]
    rw [faultsWith_iff_execute running fetched (by decide),
      Action.execute_failsWith_emptyOperandStack_iff, Role.underflows_iff,
      ← Opcode.mem_takingOne_iff, ← Opcode.mem_binaryStackForms_iff, ← Opcode.mem_jumpsOnStack_iff]
    simp only [siteAt, defined, exists_and_left]
    rfl
  · rw [faultsWith_iff_execute running fetched (by decide),
      Action.execute_failsWith_emptyCallStack_iff]
    exact and_congr_left' ⟨fun played => Opcode.role_injective played, congrArg Opcode.role⟩
  · rcases completes?_eq_some_iff.mp completed with ⟨-, -, unfaulted⟩
    rcases success_rule running fetched (Action.ensures_execute_operands _ _ _ _) unfaulted with
      ⟨-, effect⟩
    have change : opcode.role.DepthChange before after := effect.depthChange
    refine ⟨?_, ?_, ?_, ?_, change.same⟩
    · intro pushes
      rw [pushes] at change
      exact change
    · rintro (pops | operates)
      · rw [pops] at change
        exact change
      · rcases Opcode.mem_binaryStackForms_iff.mp operates with ⟨operation, played⟩
        rw [played] at change
        exact change
    · intro jumps
      rcases Opcode.mem_jumpsOnStack_iff.mp jumps with ⟨equal, played⟩
      rw [played] at change
      exact change
    · intro clears
      rw [clears] at change
      exact change

/-- A jump that compares finds one value on the stack.  The label is there, so it is the stack that
is too short, and the push before it has made the stack deeper by one. -/
theorem stack_errors_are_exact_single_operand :
    let push : Instruction := ⟨2, .pushs, [.literal (.int 7)]⟩
    let jump : Instruction := ⟨3, .jumpIfEqs, [.label "top"]⟩
    let instructions : List Instruction := [⟨1, .label, [.label "top"]⟩, push, jump]
    let program : Program := ⟨instructions, ⟨[("top", 0)]⟩⟩
    let machine := (start program (.ofBytes []) .unlimited .unlimited true none).step
    Program.ofInstructions instructions = .ok program ∧ machine.completes? = some (1, push) ∧
      machine.step.state.operands.length = machine.state.operands.length + 1 ∧
      machine.step.status = .running 2 ∧ machine.step.FaultsWith .emptyOperandStack ∧
      ¬machine.step.FaultsWith .emptyCallStack := by
  intro push jump instructions program machine
  have built : Program.ofInstructions instructions = .ok program := by decide +kernel
  have completed : machine.completes? = some (1, push) := by decide +kernel
  have running : machine.step.status = .running 2 := by decide +kernel
  have loaded : machine.step.program = program := (step_program _).1.trans (step_program _).1
  have fetched : machine.step.program.at? 2 = some jump := loaded ▸ rfl
  rcases completes?_eq_some_iff.mp completed with ⟨pushing, pushFetched, -⟩
  rcases stack_errors_are_exact built pushing pushFetched with ⟨-, -, succeeds⟩
  rcases stack_errors_are_exact (loaded ▸ built) running fetched with ⟨operands, calls, -⟩
  refine ⟨built, completed, (succeeds completed).1 rfl, running, operands.mpr ?_, ?_⟩
  · exact Or.inr (Or.inr ⟨by decide, by decide +kernel, "top", 0, rfl, _, rfl, rfl, rfl⟩)
  · intro faults
    cases (calls.mp faults).1

end Machine
end FrameMachine
