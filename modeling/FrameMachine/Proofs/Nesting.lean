import FrameMachine.Proofs.Effect
import FrameMachine.Proofs.Footprint
import FrameMachine.Proofs.Frames
import FrameMachine.Proofs.OpcodeTable
import FrameMachine.Proofs.Step
import Mathlib.Data.List.Infix

namespace FrameMachine

/-!
# Calls and frames nest

Two of the stacks of a machine grow and shrink with the calls of a program: the call
stack holds where to return to, and the stack of local frames holds the variables of the
callers.  An instruction reaches no further down than the top of either stack.  So what
lies below stays as it is for as long as the stack does not shrink to it, through any
number of further calls, jumps and frames, and in checked and unchecked programs alike.

A run of the machine during which a stack stays that high is called a segment here.  The
part of the stack that a segment does not reach is a suffix, because the top of a stack
comes first.
-/

namespace Policy

/-- The policy that asks nothing, for which instructions need not be checked. -/
def permissive : Policy where
  admits _ := True
  accepts _ := True
  admits_initialized _ _ := trivial
  accepts_ordinary _ _ := trivial

theorem permissive_governs (instruction : Instruction) (origin : State) :
    permissive.Governs instruction origin where
  accessor _ _ := trivial
  literal _ := trivial
  stream _ _ := trivial

end Policy

/-! ## What an instruction does to a stack -/

namespace Role

variable {instruction : Instruction} {role : Role}

/-- The call stack is changed by at most one return address.  A shorter one is what was
below the address that a return has taken. -/
theorem CallEffect.suffix {position : Nat} {before after : List Nat} {control : Transfer}
    (effect : role.CallEffect instruction position before after control) {base : List Nat}
    (below : base <:+ before) (fits : base.length ≤ after.length) : base <:+ after := by
  cases role with
  | call =>
      obtain ⟨pushed, -⟩ := effect
      rw [pushed]
      exact below.trans (List.suffix_cons _ before)
  | ret =>
      obtain ⟨target, popped, -⟩ := effect
      rw [popped] at below
      exact List.suffix_of_suffix_length_le below (List.suffix_cons target after) fits
  | _ => exact effect.1 ▸ below

/-- Only a return shortens the call stack, and it goes where the topmost address says. -/
theorem CallEffect.returned {position : Nat} {before after : List Nat} {control : Transfer}
    (effect : role.CallEffect instruction position before after control)
    (shorter : after.length < before.length) :
    role = .ret ∧ ∃ target, before = target :: after := by
  cases role with
  | call =>
      obtain ⟨pushed, -⟩ := effect
      rw [pushed, List.length_cons] at shorter
      omega
  | ret =>
      obtain ⟨target, popped, -⟩ := effect
      exact ⟨rfl, target, popped⟩
  | _ => exact absurd shorter (effect.1 ▸ Nat.lt_irrefl _)

end Role

namespace Role

/-- What a role can do to the stack of local frames: nothing, put a frame on top, take one
from it, or replace the one on top. -/
inductive Restacks : Role → List Frame → List Frame → Prop
  | same (role : Role) (frames : List Frame) : Restacks role frames frames
  | pushed (top : Frame) (frames : List Frame) : Restacks .pushFrame frames (top :: frames)
  | popped (top : Frame) (frames : List Frame) : Restacks .popFrame (top :: frames) frames
  | replaced (role : Role) (old new : Frame) (frames : List Frame) :
      Restacks role (old :: frames) (new :: frames)

variable {role : Role} {before after : List Frame}

/-- Frames strictly below the top are left alone. -/
theorem Restacks.suffix (restacks : role.Restacks before after) {base : List Frame}
    (below : base <:+ before) (strictly : base.length < before.length) : base <:+ after := by
  have belowTop : base <:+ before.tail := by
    refine List.suffix_of_suffix_length_le below (List.tail_suffix before) ?_
    rw [List.length_tail]
    omega
  cases restacks with
  | same => exact below
  | pushed top => exact below.trans (List.suffix_cons top before)
  | popped top => exact belowTop
  | replaced role old new frames => exact belowTop.trans (List.suffix_cons new frames)

theorem Restacks.of_longer (restacks : role.Restacks before after)
    (longer : before.length < after.length) :
    role = .pushFrame ∧ ∃ top, after = top :: before := by
  cases restacks with
  | pushed top => exact ⟨rfl, top, rfl⟩
  | popped top =>
      rw [List.length_cons] at longer
      omega
  | same | replaced => exact absurd longer (Nat.lt_irrefl _)

theorem Restacks.of_shorter (restacks : role.Restacks before after)
    (shorter : after.length < before.length) : role = .popFrame := by
  cases restacks with
  | popped top => rfl
  | pushed top =>
      rw [List.length_cons] at shorter
      omega
  | same | replaced => exact absurd shorter (Nat.lt_irrefl _)

theorem restacks_setFrame (role : Role) {store : FrameStore} {scope : Scope} {old : Frame}
    (present : store.frame? scope = some old) (new : Frame) :
    role.Restacks store.locals (store.setFrame scope new).locals := by
  cases scope with
  | global => exact .same role store.locals
  | temporary => exact .same role store.locals
  | localTop =>
      obtain ⟨rest, stack⟩ := List.head?_eq_some_iff.mp present
      rw [FrameStore.setFrame, stack]
      exact .replaced role old new rest

/-- Every role treats the local frames as a stack. -/
theorem FrameEffect.restacks {policy : Policy} {instruction : Instruction}
    {before after : FrameStore} (effect : role.FrameEffect policy instruction before after) :
    role.Restacks before.locals after.locals := by
  cases role with
  | createFrame =>
      have created : after = before.create := effect
      rw [created]
      exact .same _ before.locals
  | pushFrame =>
      obtain ⟨frame, -, rfl⟩ := FrameStore.push_eq_ok_iff.mp effect
      exact .pushed _ before.locals
  | popFrame =>
      obtain ⟨top, rest, stack, rfl⟩ := FrameStore.pop_eq_ok_iff.mp effect
      rw [stack]
      exact .popped top rest
  | define =>
      obtain ⟨v, -, defined⟩ := effect
      obtain ⟨frame, present, -, rfl⟩ := FrameStore.define_eq_ok_iff.mp defined
      exact restacks_setFrame _ present _
  | move | pop | binaryInto | unaryInto | read | replaceChar | kindOf =>
      obtain ⟨v, value, -, -, assigned⟩ := effect
      obtain ⟨frame, present, -, rfl⟩ := FrameStore.assign_eq_ok_iff.mp assigned
      exact restacks_setFrame _ present _
  | _ =>
      have same : after = before := effect
      rw [same]
      exact .same _ before.locals

end Role

namespace Machine

/-- The machine is running at a position, and the instruction there has this opcode. -/
def Executes (machine : Machine) (position : Nat) (opcode : Opcode) : Prop :=
  machine.status = .running position ∧
    ∃ instruction, machine.program.at? position = some instruction ∧ instruction.opcode = opcode

variable {machine : Machine}

/-! ## Steps and segments -/

/-- A step has the effect of its instruction on the call stack, or none. -/
theorem step_calls {position : Nat} {instruction : Instruction}
    (running : machine.status = .running position)
    (fetched : machine.program.at? position = some instruction) :
    machine.step.state.calls = machine.state.calls ∨
      ∃ control, instruction.opcode.role.CallEffect instruction position machine.state.calls
        machine.step.state.calls control := by
  have execution := Action.ensures_execute_calls (machine.siteAt position) instruction
    instruction.opcode.role machine.state
  refine step_state (motive := fun after =>
    after.calls = machine.state.calls ∨
      ∃ control, instruction.opcode.role.CallEffect instruction position machine.state.calls
        after.calls control) running fetched (execution.imp ?_ ?_)
  · intro control after effect
    exact Or.inr ⟨control, effect⟩
  · intro error after same
    exact Or.inl same

theorem suffix_calls_step {base : List Nat} (below : base <:+ machine.state.calls)
    (fits : base.length ≤ machine.step.state.calls.length) :
    base <:+ machine.step.state.calls := by
  rcases step_state_or_running machine with same | ⟨position, instruction, running, fetched⟩
  · exact same ▸ below
  · rcases step_calls running fetched with same | ⟨control, effect⟩
    · exact same ▸ below
    · exact effect.suffix below fits

/-- A step treats the local frames as a stack. -/
theorem step_restacks (machine : Machine) :
    machine.step.state.frames.locals = machine.state.frames.locals ∨
      ∃ position opcode, machine.Executes position opcode ∧
        opcode.role.Restacks machine.state.frames.locals machine.step.state.frames.locals := by
  rcases step_state_or_running machine with same | ⟨position, instruction, running, fetched⟩
  · exact Or.inl (same ▸ rfl)
  · refine Or.inr ⟨position, instruction.opcode, ⟨running, instruction, fetched, rfl⟩, ?_⟩
    have execution := (Policy.permissive_governs instruction machine.state).allows_execute
      (machine.siteAt position) rfl machine.state ⟨rfl, rfl, fun _ _ => trivial⟩
    refine step_state (motive := fun after =>
      instruction.opcode.role.Restacks machine.state.frames.locals after.frames.locals)
      running fetched (execution.imp ?_ ?_)
    · intro control after ⟨holds, _⟩
      exact holds.frames.restacks
    · intro error after ⟨holds, _⟩
      rw [holds.frames]
      exact .same _ _

theorem suffix_locals_step {base : List Frame} (below : base <:+ machine.state.frames.locals)
    (strictly : base.length < machine.state.frames.depth) :
    base <:+ machine.step.state.frames.locals := by
  rcases machine.step_restacks with same | ⟨position, opcode, -, restacks⟩
  · exact same ▸ below
  · exact restacks.suffix below strictly

/-- What each step of a segment keeps is kept by the segment.  A step may rely on the
machine being within the segment before and after it. -/
theorem segment_induction (motive within : Machine → Prop) (initially : motive machine)
    (keeps : ∀ next, motive next → within next → within next.step → motive next.step)
    {count : Nat} (stays : ∀ index ≤ count, within (step^[index] machine)) :
    motive (step^[count] machine) := by
  induction count with
  | zero => exact initially
  | succ count inductionHypothesis =>
      have before := stays count (Nat.le_succ count)
      have after := stays (count + 1) (Nat.le_refl _)
      rw [Function.iterate_succ_apply'] at after ⊢
      refine keeps _ (inductionHypothesis fun index bound => ?_) before after
      exact stays index (Nat.le_succ_of_le bound)

/-- The lower part of the call stack is kept for as long as the stack is at least as high. -/
theorem suffix_calls_iterate {base : List Nat} (below : base <:+ machine.state.calls) {count : Nat}
    (high : ∀ index ≤ count, base.length ≤ (step^[index] machine).state.calls.length) :
    base <:+ (step^[count] machine).state.calls :=
  segment_induction (fun next => base <:+ next.state.calls)
    (fun next => base.length ≤ next.state.calls.length) below
    (fun _ below _ fits => suffix_calls_step below fits) high

/-- Local frames are kept for as long as there is a frame above them. -/
theorem suffix_locals_iterate {base : List Frame} (below : base <:+ machine.state.frames.locals)
    {count : Nat}
    (high : ∀ index ≤ count, base.length < (step^[index] machine).state.frames.depth) :
    base <:+ (step^[count] machine).state.frames.locals :=
  segment_induction (fun next => base <:+ next.state.frames.locals)
    (fun next => base.length < next.state.frames.depth) below
    (fun _ below strictly _ => suffix_locals_step below strictly) high

/-! ## Matching returns -/

/-- A call whose return address gets onto the call stack. -/
theorem calls_step_of_call {position : Nat} (called : machine.Executes position .call)
    (higher : machine.state.calls.length < machine.step.state.calls.length) :
    machine.step.state.calls = (position + 1) :: machine.state.calls := by
  obtain ⟨running, instruction, fetched, opcode⟩ := called
  rcases step_calls running fetched with same | ⟨control, effect⟩
  · rw [same] at higher
    exact absurd higher (Nat.lt_irrefl _)
  · rw [opcode] at effect
    exact effect.1

/-- A return takes the topmost address and goes there. -/
theorem step_of_return {position target : Nat} {rest : List Nat}
    (returns : machine.Executes position .ret) (calls : machine.state.calls = target :: rest) :
    machine.step.state.calls = rest ∧
      machine.step.status = continueAt machine.program target := by
  obtain ⟨running, instruction, fetched, opcode⟩ := returns
  rw [step_of_running running fetched]
  apply (executeAt_iff_ensures (motive := fun after =>
    after.state.calls = rest ∧ after.status = continueAt machine.program target)).mpr
  rw [ensures_perform, opcode]
  simp [Opcode.role, Action.execute, Action.ensures_map, Action.ensures_popCall, calls, transfer,
    siteAt, succeed, count]

/-- A step that shortens the call stack is a return that takes the topmost address. -/
theorem returns_of_shorter
    (shorter : machine.step.state.calls.length < machine.state.calls.length) :
    ∃ position target, machine.Executes position .ret ∧
      machine.state.calls = target :: machine.step.state.calls := by
  rcases step_state_or_running machine with same | ⟨position, instruction, running, fetched⟩
  · rw [same] at shorter
    exact absurd shorter (Nat.lt_irrefl _)
  · rcases step_calls running fetched with same | ⟨control, effect⟩
    · rw [same] at shorter
      exact absurd shorter (Nat.lt_irrefl _)
    · obtain ⟨played, target, popped⟩ := effect.returned shorter
      exact ⟨position, target, ⟨running, instruction, fetched, Opcode.role_injective played⟩, popped⟩

/-- A call returns to the instruction behind it.  Whatever happens after the call, as long
as the call stack stays higher than before it, the return address and everything below
stay where they are; and the first step that brings the stack back to its height is a
return that restores it and goes on behind the call, or halts the machine if the call was
the last instruction. -/
theorem matching_return {machine : Machine} {position count : Nat}
    (called : machine.Executes position .call)
    (inside : ∀ index ≤ count,
      machine.state.calls.length < (step^[index + 1] machine).state.calls.length)
    (back : (step^[count + 2] machine).state.calls.length = machine.state.calls.length) :
    (∀ index ≤ count,
      (position + 1) :: machine.state.calls <:+ (step^[index + 1] machine).state.calls) ∧
    (∃ last, (step^[count + 1] machine).Executes last .ret) ∧
    (step^[count + 2] machine).state.calls = machine.state.calls ∧
    (step^[count + 2] machine).status =
      if position + 1 < machine.program.size then .running (position + 1) else .halted 0 := by
  have pushed := calls_step_of_call called (inside 0 (Nat.zero_le count))
  have kept : ∀ index ≤ count,
      (position + 1) :: machine.state.calls <:+ (step^[index + 1] machine).state.calls := by
    intro index bound
    rw [Function.iterate_succ_apply]
    refine suffix_calls_iterate (pushed ▸ List.suffix_refl _) fun earlier before => ?_
    rw [← Function.iterate_succ_apply]
    exact inside earlier (before.trans bound)
  have last := kept count (Nat.le_refl count)
  have next : step^[count + 2] machine = (step^[count + 1] machine).step :=
    Function.iterate_succ_apply' step (count + 1) machine
  rw [next] at back ⊢
  obtain ⟨returning, target, returns, popped⟩ :=
    returns_of_shorter (back ▸ inside count (Nat.le_refl count))
  -- The address that is taken is the only one above the old call stack.
  have exactly : (position + 1) :: machine.state.calls =
      (step^[count + 1] machine).state.calls := by
    refine last.eq_of_length ?_
    rw [popped, List.length_cons, List.length_cons, back]
  obtain ⟨calls, status⟩ := step_of_return returns exactly.symm
  rw [(iterate_program (count + 1) machine).1] at status
  exact ⟨kept, ⟨returning, returns⟩, calls, status⟩

/-- A call inside a call, both of which return. -/
theorem matching_return_nested :
    let program : Program :=
      ⟨[⟨1, .call, [.label "outer"]⟩, ⟨2, .exit, [.literal (.int 0)]⟩, ⟨3, .label, [.label "outer"]⟩,
        ⟨4, .call, [.label "inner"]⟩, ⟨5, .ret, []⟩, ⟨6, .label, [.label "inner"]⟩, ⟨7, .ret, []⟩],
        ⟨[("inner", 5), ("outer", 2)]⟩⟩
    let machine := start program (.ofBytes []) .unlimited .unlimited true none
    machine.Executes 0 .call ∧ (step^[3] machine).state.calls = [4, 1] ∧
      (∃ last, (step^[5] machine).Executes last .ret) ∧ (step^[6] machine).state.calls = [] ∧
      (step^[6] machine).status = .running 1 := by
  intro program machine
  have called : machine.Executes 0 .call := ⟨rfl, _, rfl, rfl⟩
  have inside : ∀ index ≤ 4,
      machine.state.calls.length < (step^[index + 1] machine).state.calls.length := by
    decide +kernel
  have back : (step^[4 + 2] machine).state.calls.length = machine.state.calls.length := by
    decide +kernel
  have nested : (step^[3] machine).state.calls = [4, 1] := by
    decide +kernel
  have within : 0 + 1 < machine.program.size := by
    decide +kernel
  obtain ⟨-, returns, calls, status⟩ := matching_return called inside back
  rw [if_pos within] at status
  simp only [Nat.reduceAdd] at returns calls status
  exact ⟨called, nested, returns, calls, status⟩

/-! ## Frames of the callers -/

end Machine

/-- The local frame at a level, counted from the bottom of the stack. -/
def FrameStore.level? (store : FrameStore) (level : Nat) : Option Frame :=
  store.locals.reverse[level]?

/-- The levels of a lower part of the stack are levels of the stack. -/
theorem FrameStore.level?_of_suffix {store : FrameStore} {base : List Frame}
    (below : base <:+ store.locals) {level : Nat} (bound : level < base.length) :
    store.level? level = base.reverse[level]? := by
  obtain ⟨above, stack⟩ := below
  rw [level?, ← stack, List.reverse_append, List.getElem?_append_left]
  rwa [List.length_reverse]

namespace Machine

/-- The frames below the top of a segment stay what they were, level by level. -/
theorem level?_iterate {machine : Machine} (depth : Nat) {count : Nat}
    (high : ∀ index ≤ count, depth < (step^[index] machine).state.frames.depth) {level : Nat}
    (bound : level < depth) :
    (step^[count] machine).state.frames.level? level = machine.state.frames.level? level := by
  have enough : depth < machine.state.frames.locals.length := high 0 (Nat.zero_le count)
  let base := machine.state.frames.locals.drop (machine.state.frames.locals.length - depth)
  have below : base <:+ machine.state.frames.locals := List.drop_suffix _ _
  have length : base.length = depth := by
    rw [List.length_drop]
    omega
  have kept := suffix_locals_iterate below (length ▸ high)
  rw [FrameStore.level?_of_suffix kept (length ▸ bound),
    FrameStore.level?_of_suffix below (length ▸ bound)]

/-- A step that raises the stack of local frames pushes a frame. -/
theorem pushes_of_higher {machine : Machine}
    (higher : machine.state.frames.depth < machine.step.state.frames.depth) :
    (∃ position, machine.Executes position .pushFrame) ∧
      ∃ top, machine.step.state.frames.locals = top :: machine.state.frames.locals := by
  rcases machine.step_restacks with same | ⟨position, opcode, executes, restacks⟩
  · rw [FrameStore.depth, FrameStore.depth, same] at higher
    exact absurd higher (Nat.lt_irrefl _)
  · obtain ⟨played, pushed⟩ := restacks.of_longer higher
    have equal : opcode = .pushFrame := Opcode.role_injective played
    exact ⟨⟨position, equal ▸ executes⟩, pushed⟩

/-- A step that lowers the stack of local frames pops a frame. -/
theorem pops_of_lower {machine : Machine}
    (lower : machine.step.state.frames.depth < machine.state.frames.depth) :
    ∃ position, machine.Executes position .popFrame := by
  rcases machine.step_restacks with same | ⟨position, opcode, executes, restacks⟩
  · rw [FrameStore.depth, FrameStore.depth, same] at lower
    exact absurd lower (Nat.lt_irrefl _)
  · have equal : opcode = .popFrame := Opcode.role_injective (restacks.of_shorter lower)
    exact ⟨position, equal ▸ executes⟩

/-- The frames of the callers are out of reach.  During a segment in which there are always
at least `depth` local frames, each of the frames below the one at the top of those stays
the same.  In particular, after a frame was pushed, the frames that were there before stay
the same until a frame is popped that leaves only them, and then they are what is left. -/
theorem caller_frames_isolated (machine : Machine) (count : Nat) :
    (∀ depth, 1 ≤ depth →
      (∀ index ≤ count, depth ≤ (step^[index] machine).state.frames.depth) →
      ∀ level < depth - 1, ∃ frame, machine.state.frames.level? level = some frame ∧
        (step^[count] machine).state.frames.level? level = some frame) ∧
    ((∀ index ≤ count,
        machine.state.frames.depth < (step^[index + 1] machine).state.frames.depth) →
      (∃ first, machine.Executes first .pushFrame) ∧
      (∀ index ≤ count, ∀ level < machine.state.frames.depth,
        (step^[index + 1] machine).state.frames.level? level =
          machine.state.frames.level? level) ∧
      ((step^[count + 2] machine).state.frames.depth = machine.state.frames.depth →
        (∃ last, (step^[count + 1] machine).Executes last .popFrame) ∧
        (step^[count + 2] machine).state.frames.locals = machine.state.frames.locals)) := by
  constructor
  · intro depth positive high level bound
    have enough : level < machine.state.frames.locals.reverse.length := by
      have here : depth ≤ machine.state.frames.locals.length := high 0 (Nat.zero_le count)
      rw [List.length_reverse]
      omega
    have found := List.getElem?_eq_getElem enough
    refine ⟨_, found, (level?_iterate (depth - 1) (fun index within => ?_) bound).trans found⟩
    have here := high index within
    omega
  · intro inside
    obtain ⟨pushes, top, pushed⟩ := pushes_of_higher (inside 0 (Nat.zero_le count))
    have kept : ∀ index ≤ count,
        machine.state.frames.locals <:+ (step^[index + 1] machine).state.frames.locals := by
      intro index bound
      rw [Function.iterate_succ_apply]
      refine suffix_locals_iterate (pushed ▸ List.suffix_cons top _) fun earlier before => ?_
      rw [← Function.iterate_succ_apply]
      exact inside earlier (before.trans bound)
    refine ⟨pushes, fun index bound level within => ?_, fun back => ?_⟩
    · rw [FrameStore.level?_of_suffix (kept index bound) within,
        FrameStore.level?_of_suffix (List.suffix_refl _) within]
    · have next : step^[count + 2] machine = (step^[count + 1] machine).step :=
        Function.iterate_succ_apply' step (count + 1) machine
      have higher := inside count (Nat.le_refl count)
      rw [next] at back ⊢
      have left := suffix_locals_step (kept count (Nat.le_refl count)) higher
      exact ⟨pops_of_lower (back ▸ higher), (left.eq_of_length back.symm).symm⟩

/-- A frame with the variable `x` of a caller, which the callee's own `x` does not touch. -/
theorem caller_frames_isolated_shadowed :
    let prepared : List Instruction :=
      [⟨1, .createFrame, []⟩, ⟨2, .defVar, [.var ⟨.temporary, "x"⟩]⟩, ⟨3, .pushFrame, []⟩]
    let program : Program :=
      ⟨prepared ++ prepared ++ [⟨7, .move, [.var ⟨.localTop, "x"⟩, .literal .nil]⟩,
        ⟨8, .popFrame, []⟩], .empty⟩
    let machine := step^[5] (start program (.ofBytes []) .unlimited .unlimited true none)
    (∀ index ≤ 1, machine.state.frames.depth < (step^[index + 1] machine).state.frames.depth) ∧
      (step^[2] machine).state.frames.locals =
        [⟨[("x", ⟨"x", .nil⟩)]⟩, ⟨[("x", ⟨"x", .uninitialized⟩)]⟩] ∧
      (step^[2] machine).state.frames.level? 0 = machine.state.frames.level? 0 ∧
      (step^[3] machine).state.frames.locals = machine.state.frames.locals := by
  intro prepared program machine
  have inside : ∀ index ≤ 1,
      machine.state.frames.depth < (step^[index + 1] machine).state.frames.depth := by
    decide +kernel
  have back : (step^[1 + 2] machine).state.frames.depth = machine.state.frames.depth := by
    decide +kernel
  have assigned : (step^[2] machine).state.frames.locals =
      [⟨[("x", ⟨"x", .nil⟩)]⟩, ⟨[("x", ⟨"x", .uninitialized⟩)]⟩] := by
    decide +kernel
  have positive : 0 < machine.state.frames.depth := by
    decide +kernel
  obtain ⟨-, kept, left⟩ := (caller_frames_isolated machine 1).2 inside
  have level := kept 1 (Nat.le_refl 1) 0 positive
  have locals := (left back).2
  simp only [Nat.reduceAdd] at level locals
  exact ⟨inside, assigned, level, locals⟩

end Machine
end FrameMachine
