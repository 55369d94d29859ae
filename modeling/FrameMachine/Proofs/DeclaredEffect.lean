import FrameMachine.Proofs.Footprint
import FrameMachine.Proofs.Frames
import FrameMachine.Proofs.OpcodeTable
import FrameMachine.Proofs.Trace

namespace FrameMachine

/-!
# The effect of a completed instruction

An instruction with a destination computes a value from the state that it finds, with the help
of the operand stack, and gives the value to one variable.  It does not matter which variables
its operands are, because all of them are looked at before the destination changes.  What else
can happen to the frames is that a variable is defined or that a frame is created, pushed or
popped, and the other instructions leave the frames alone.

A store is compared with an earlier one frame by frame.  The frames that a program can reach are
those of the three scopes, and below the topmost local frame there are others that it cannot see.
-/

/-! ## A change at one variable -/

namespace FrameStore

/-- The second store differs from the first at one variable, which has the given value now.  The
frame of its scope has one name more if the variable is new, and the answers for other names, the
frames of the other scopes and the local frames out of sight are the same. -/
structure ChangedAt (before after : FrameStore) (v : Variable) (value : Value) : Prop where
  here : ∃ old new, before.frame? v.scope = some old ∧ after.frame? v.scope = some new ∧
    new.size = old.size + (if old.contains v.name then 0 else 1) ∧
    ∀ name, new.find? name = if name = v.name then some value else old.find? name
  elsewhere : ∀ scope, scope ≠ v.scope → after.frame? scope = before.frame? scope
  hidden : after.locals.tail = before.locals.tail

variable {store after : FrameStore} {v : Variable} {value : Value}

theorem changedAt_setFrame {old new : Frame} (present : store.frame? v.scope = some old)
    (size : new.size = old.size + (if old.contains v.name then 0 else 1))
    (answers : ∀ name, new.find? name = if name = v.name then some value else old.find? name) :
    store.ChangedAt (store.setFrame v.scope new) v value where
  here := ⟨old, new, present, (frame?_setFrame store v.scope v.scope new).trans (if_pos rfl), size,
    answers⟩
  elsewhere scope other := (frame?_setFrame store v.scope scope new).trans (if_neg other)
  hidden := by cases v.scope <;> rfl

/-- An assignment changes a variable that is there. -/
theorem changedAt_of_assign (assigned : store.assign v value = .ok () after) :
    store.Has v ∧ store.ChangedAt after v value := by
  rcases assign_eq_ok_iff.mp assigned with ⟨frame, present, has, rfl⟩
  refine ⟨⟨frame, present, has⟩, changedAt_setFrame present ?_ fun name =>
    frame.find?_update_of_contains name v.name value has⟩
  rw [if_pos has]
  exact List.length_map _

/-- A definition adds a variable that is not there. -/
theorem changedAt_of_define (defined : store.define v = .ok () after) :
    store.Lacks v ∧ store.ChangedAt after v .uninitialized := by
  rcases define_eq_ok_iff.mp defined with ⟨frame, present, absent, rfl⟩
  refine ⟨⟨frame, present, absent⟩, changedAt_setFrame present ?_ fun name =>
    frame.find?_insert name v.name ⟨v.name, .uninitialized⟩⟩
  rw [absent, if_neg Bool.false_ne_true]
  rfl

end FrameStore

/-! ## What is declared of each role -/

namespace Role

/-- The value that an execution computes for its destination from the state before. -/
def Computes (instruction : Instruction) (before : State) (value : Value) : Role → Prop
  | .move => instruction.valueAt before.frames 1 = .ok value
  | .pop => before.operands.head? = some value
  | .binaryInto operation => ∃ left right,
      instruction.valueAt before.frames 1 = .ok left ∧
      instruction.valueAt before.frames 2 = .ok right ∧ operation.apply left right = .ok value
  | .unaryInto operation => ∃ operand,
      instruction.valueAt before.frames 1 = .ok operand ∧ operation.apply operand = .ok value
  | .read => ∃ type line, instruction.typeAt 1 = .ok type ∧
      before.input.takeLine.1 = .ok line ∧ value = InputStream.valueOfLine type line
  | .replaceChar => ∃ v target index source, instruction.varAt 0 = .ok v ∧
      before.frames.read v = .ok target ∧ instruction.valueAt before.frames 1 = .ok index ∧
      instruction.valueAt before.frames 2 = .ok source ∧
      FrameMachine.replaceChar target index source = .ok value
  | .kindOf => ∃ symbol shown, instruction.symbolAt 1 = .ok symbol ∧
      before.frames.inspect symbol = .ok shown ∧ value = .string shown.kind.name
  | _ => False

/-- The variable in the first slot has been given the computed value, and nothing else has
changed in the frames. -/
def Stores (instruction : Instruction) (before after : State) (role : Role) : Prop :=
  ∃ v value, instruction.varAt 0 = .ok v ∧ role.Computes instruction before value ∧
    before.frames.Has v ∧ before.frames.ChangedAt after.frames v value

/-- What a successful execution does to the frames. -/
def FrameChange (instruction : Instruction) (before after : State) (role : Role) : Prop :=
  match role with
  | .move | .pop | .binaryInto _ | .unaryInto _ | .read | .replaceChar | .kindOf =>
      role.Stores instruction before after
  | .define => ∃ v, instruction.varAt 0 = .ok v ∧ before.frames.Lacks v ∧
      before.frames.ChangedAt after.frames v .uninitialized
  | .createFrame => after.frames = ⟨before.frames.global, before.frames.locals, some .empty⟩
  | .pushFrame => ∃ frame, before.frames.temporary = some frame ∧
      after.frames = ⟨before.frames.global, frame :: before.frames.locals, none⟩
  | .popFrame => ∃ frame rest, before.frames.locals = frame :: rest ∧
      after.frames = ⟨before.frames.global, rest, some frame⟩
  | _ => after.frames = before.frames

end Role

/-! ## Following an execution -/

namespace Action

variable {instruction : Instruction} {before state : State} {role : Role} {value : Value}

/-- An execution that ends by assigning what it has computed.  Until then it has left the frames
alone. -/
theorem ensures_assignAt_stores (same : state.frames = before.frames)
    (computed : role.Computes instruction before value) :
    Ensures (do assignAt instruction 0 value; pure Transfer.next) state
      (fun _ after => role.Stores instruction before after)
      (fun _ after => after.frames = before.frames) := by
  rw [ensures_bind, ensures_assignAt]
  refine ⟨fun v destination => ⟨fun frames assigned => ?_, fun _ _ => same⟩, fun _ _ => same⟩
  rw [same] at assigned
  rcases FrameStore.changedAt_of_assign assigned with ⟨has, changed⟩
  exact ⟨v, value, destination, computed, has, changed⟩

/-- The result of an operation comes from the top of the stack, where it was just put. -/
theorem ensures_pop_stores {rest : List Value} (same : state.frames = before.frames)
    (stack : state.operands = value :: rest) (computed : role.Computes instruction before value) :
    Ensures (do let result ← pop; assignAt instruction 0 result; pure Transfer.next) state
      (fun _ after => role.Stores instruction before after)
      (fun _ after => after.frames = before.frames) := by
  rw [ensures_bind, ensures_pop, stack]
  constructor
  · rintro top below ⟨⟩
    exact ensures_assignAt_stores same computed
  · intro impossible
    cases impossible

theorem ensures_execute_frames (site : Site) (instruction : Instruction) (role : Role)
    (state : State) :
    Ensures (execute site instruction role) state
      (fun _ after => role.FrameChange instruction state after)
      (fun _ after => after.frames = state.frames) := by
  cases role with
  | move =>
      rw [execute, ensures_bind, ensures_symbolValue]
      exact ⟨fun value denoted => ensures_assignAt_stores rfl denoted, fun _ _ => rfl⟩
  | pop =>
      cases stack : state.operands with
      | nil =>
          rw [execute, ensures_bind, ensures_pop, stack]
          refine ⟨?_, fun _ => rfl⟩
          intro value rest impossible
          cases impossible
      | cons value rest => exact ensures_pop_stores rfl stack (congrArg List.head? stack)
  | binaryInto operation =>
      rw [execute, ensures_bind, ensures_pushSymbol]
      refine ⟨fun left leftDenoted => ?_, fun _ _ => rfl⟩
      rw [ensures_bind, ensures_pushSymbol]
      refine ⟨fun right rightDenoted => ?_, fun _ _ => rfl⟩
      rw [ensures_bind, ensures_binary]
      refine ⟨?_, fun _ _ => rfl, fun _ => rfl⟩
      rintro _ _ _ ⟨⟩
      refine ⟨fun result applied => ?_, fun _ _ => rfl⟩
      exact ensures_pop_stores rfl rfl ⟨left, right, leftDenoted, rightDenoted, applied⟩
  | unaryInto operation =>
      rw [execute, ensures_bind, ensures_pushSymbol]
      refine ⟨fun operand denoted => ?_, fun _ _ => rfl⟩
      rw [ensures_bind, ensures_unary]
      refine ⟨?_, fun _ => rfl⟩
      rintro _ _ ⟨⟩
      refine ⟨fun result applied => ?_, fun _ _ => rfl⟩
      exact ensures_pop_stores rfl rfl ⟨operand, denoted, applied⟩
  | read =>
      rw [execute, ensures_bind, ensures_require]
      refine ⟨fun type asked => ?_, fun _ _ => rfl⟩
      rw [ensures_bind, ensures_takeLine]
      refine ⟨fun line taken => ?_, fun _ _ => rfl⟩
      exact ensures_assignAt_stores rfl ⟨type, line, asked, taken, rfl⟩
  | replaceChar =>
      simp only [execute, ensures_bind, ensures_require, ensures_valueOf, ensures_symbolValue,
        ensures_onFrames_of_isAtomic (FrameStore.isAtomic_assign _ _), ensures_pure, implies_true,
        and_true]
      intro v destination target read index indexed source sourced result replaced frames assigned
      rcases FrameStore.changedAt_of_assign assigned with ⟨has, changed⟩
      exact ⟨v, result, destination,
        ⟨v, target, index, source, destination, read, indexed, sourced, replaced⟩, has, changed⟩
  | kindOf =>
      rw [execute, ensures_bind, ensures_require]
      refine ⟨fun symbol asked => ?_, fun _ _ => rfl⟩
      rw [ensures_bind, ensures_peekAt]
      refine ⟨fun shown found => ?_, fun _ _ => rfl⟩
      exact ensures_assignAt_stores rfl ⟨symbol, shown, asked, found, rfl⟩
  | define =>
      simp only [execute, ensures_bind, ensures_require,
        ensures_onFrames_of_isAtomic (FrameStore.isAtomic_define _), ensures_pure, implies_true,
        and_true]
      intro v named frames defined
      exact ⟨v, named, FrameStore.changedAt_of_define defined⟩
  | createFrame =>
      simp only [execute, ensures_bind, ensures_onFrames_of_isAtomic FrameStore.isAtomic_create,
        ensures_pure, implies_true, and_true]
      rintro frames ⟨⟩
      rfl
  | pushFrame =>
      simp only [execute, ensures_bind, ensures_onFrames_of_isAtomic FrameStore.isAtomic_push,
        ensures_pure, implies_true, and_true]
      intro frames pushed
      exact FrameStore.push_eq_ok_iff.mp pushed
  | popFrame =>
      simp only [execute, ensures_bind, ensures_onFrames_of_isAtomic FrameStore.isAtomic_pop,
        ensures_pure, implies_true, and_true]
      intro frames popped
      exact FrameStore.pop_eq_ok_iff.mp popped
  | _ =>
      simp [execute, Role.FrameChange, ensures_pure, ensures_bind, ensures_map, ensures_require,
        ensures_ite, ensures_get, ensures_clear, ensures_pushCall, ensures_popCall,
        ensures_symbolValue, ensures_write, ensures_writeDiagnostic, ensures_pushSymbol,
        ensures_binary, ensures_unary, ensures_jumpIf]

end Action

/-! ## One step -/

namespace Machine

variable {machine : Machine} {position : Nat} {instruction : Instruction}

/-- Every instruction that is completed has exactly the effect which its role declares.  The
frames change at its destination, if it has one, and the value there is computed from the state
before the step.  Input is taken by a read alone, the call stack belongs to calls and returns,
and what other instructions put on the operand stack for their own use is gone again. -/
theorem completed_instruction_has_declared_effect
    (completed : machine.completes? = some (position, instruction)) :
    instruction.opcode.role.FrameChange instruction machine.state machine.step.state ∧
    (instruction.opcode = .read → machine.step.state.input = machine.state.input.takeLine.2) ∧
    (instruction.opcode ≠ .read → machine.step.state.input = machine.state.input) ∧
    (instruction.opcode ≠ .call → instruction.opcode ≠ .ret →
      machine.step.state.calls = machine.state.calls) ∧
    (instruction.opcode ∉ [.pushs, .pops, .clears] → instruction.opcode.isStackForm = false →
      machine.step.state.operands = machine.state.operands) := by
  rcases completes?_eq_some_iff.mp completed with ⟨running, fetched, unfaulted⟩
  have execution := (((Action.ensures_execute_frames (machine.siteAt position) instruction
    instruction.opcode.role machine.state).and
      (Action.ensures_execute_input _ _ _ _)).and (Action.ensures_execute_calls _ _ _ _)).and
        (Action.ensures_execute_operands _ _ _ _)
  rcases success_rule running fetched execution unfaulted with
    ⟨control, ⟨⟨frames, input⟩, calls⟩, operands⟩
  have plays (opcode : Opcode) (played : instruction.opcode.role = opcode.role) :
      instruction.opcode = opcode := Opcode.role_injective played
  refine ⟨frames, ?_, ?_, ?_, ?_⟩
  · intro reads
    rw [reads] at input
    exact input
  · intro other
    rcases input.changed with same | ⟨reads, -⟩
    · exact same
    · exact absurd (plays .read reads) other
  · intro noCall noReturn
    rcases calls.changed with same | called | returned
    · exact same
    · exact absurd (plays .call called) noCall
    · exact absurd (plays .ret returned) noReturn
  · intro other named
    simp only [List.mem_cons, List.not_mem_nil, or_false, not_or] at other
    rcases operands.changed with same | pushed | popped | cleared | form
    · exact same
    · exact absurd (plays .pushs pushed) other.1
    · exact absurd (plays .pops popped) other.2.1
    · exact absurd (plays .clears cleared) other.2.2
    · exact absurd form (Bool.eq_false_iff.mp named)

/-- A sum whose operands and destination are one local variable, with a global variable of the
same name and a value on the stack.  Both operands are the old value, and neither the other
variable nor the stack is touched. -/
theorem completed_instruction_has_declared_effect_aliased :
    let x : Variable := ⟨.localTop, "x"⟩
    let sum : Instruction := ⟨7, .add, [.var x, .var x, .var x]⟩
    let program : Program :=
      ⟨[⟨1, .defVar, [.var ⟨.global, "x"⟩]⟩, ⟨2, .createFrame, []⟩,
        ⟨3, .defVar, [.var ⟨.temporary, "x"⟩]⟩, ⟨4, .pushFrame, []⟩,
        ⟨5, .move, [.var x, .literal (.int 20)]⟩, ⟨6, .pushs, [.literal (.int 3)]⟩, sum], .empty⟩
    let machine := step^[6] (start program (.ofBytes []) .unlimited .unlimited true none)
    machine.completes? = some (6, sum) ∧
      (∃ value, (Role.binaryInto .add).Computes sum machine.state value ∧
        machine.state.frames.ChangedAt machine.step.state.frames x value) ∧
      machine.step.state.operands = [.int 3] ∧
      machine.step.state.frames =
        ⟨⟨[("x", ⟨"x", .uninitialized⟩)]⟩, [⟨[("x", ⟨"x", .int 40⟩)]⟩], none⟩ := by
  intro x sum program machine
  have completed : machine.completes? = some (6, sum) := by decide +kernel
  rcases completed_instruction_has_declared_effect completed with
    ⟨⟨v, value, destination, computed, -, changed⟩, -, -, -, operands⟩
  obtain rfl : x = v := Except.ok.inj destination
  refine ⟨completed, ⟨value, computed, changed⟩, ?_, by decide +kernel⟩
  rw [operands (by decide) rfl]
  decide +kernel

end Machine
end FrameMachine
