import FrameMachine.Proofs.Action

namespace FrameMachine

/-!
# Stacks, control and streams

Besides the frames an execution can change the two stacks and the three streams, and it
decides where control is passed.  Few roles do any of this.  The effect of each role is
named here, and every other role leaves the part alone.  An execution that fails leaves the
call stack and both output streams alone.  It may have taken a line of input, and it may
leave the operand stack with values too many or too few, but not by more than two.

All roles are followed by the rules of `Action.Ensures`, which are made rewriting rules
for this module.  A role is treated by hand only where its effect is more than nothing.
-/

namespace Role

/-- What a successful execution at a position does to the call stack, and where it
passes control. -/
def CallEffect (instruction : Instruction) (position : Nat) (before after : List Nat)
    (control : Transfer) : Role → Prop
  | .call => after = (position + 1) :: before ∧
      ∃ name, instruction.labelAt 0 = .ok name ∧ control = .toLabel name
  | .ret => ∃ target, before = target :: after ∧ control = .toPosition target
  | .exit => after = before ∧ ∃ code, code ≤ maxExitCode ∧ control = .halt code
  | .jump => after = before ∧
      ∃ name, instruction.labelAt 0 = .ok name ∧ control = .toLabel name
  | .jumpIf _ | .jumpIfOnStack _ => after = before ∧
      (control = .next ∨ ∃ name, instruction.labelAt 0 = .ok name ∧ control = .toLabel name)
  | _ => after = before ∧ control = .next

/-- What a successful execution does to the output stream. -/
def OutputEffect (instruction : Instruction) (before after : State) : Role → Prop
  | .write => ∃ value, instruction.valueAt before.frames 0 = .ok value ∧
      before.output.write value.output = .ok after.output
  | _ => after.output = before.output

/-- What a successful execution does to the diagnostic stream.  A value that is to be
printed must exist even if debugging output is not wanted. -/
def DiagnosticEffect (site : Site) (instruction : Instruction) (before after : State) :
    Role → Prop
  | .debugPrint => ∃ value, instruction.valueAt before.frames 0 = .ok value ∧
      if site.debugOutput then before.diagnostics.write value.output = .ok after.diagnostics
      else after.diagnostics = before.diagnostics
  | .debugBreak =>
      if site.debugOutput then
        before.diagnostics.write (before.dump site.program site.position site.executed) =
          .ok after.diagnostics
      else after.diagnostics = before.diagnostics
  | _ => after.diagnostics = before.diagnostics

/-- What a successful execution does to the input stream. -/
def InputEffect (before after : State) : Role → Prop
  | .read => after.input = before.input.takeLine.2
  | _ => after.input = before.input

/-- What a successful execution does to the operand stack. -/
def OperandEffect (instruction : Instruction) (before after : State) : Role → Prop
  | .push => ∃ value, instruction.valueAt before.frames 0 = .ok value ∧
      after.operands = value :: before.operands
  | .pop => ∃ value, before.operands = value :: after.operands
  | .clear => after.operands = []
  | .binaryOnStack operation => ∃ right left rest result,
      before.operands = right :: left :: rest ∧ operation.apply left right = .ok result ∧
        after.operands = result :: rest
  | .unaryOnStack operation => ∃ operand rest result,
      before.operands = operand :: rest ∧ operation.apply operand = .ok result ∧
        after.operands = result :: rest
  | .jumpIfOnStack _ => ∃ right left, before.operands = right :: left :: after.operands
  | _ => after.operands = before.operands

/-- Only a read changes the input stream. -/
theorem InputEffect.changed {before after : State} {role : Role}
    (effect : role.InputEffect before after) :
    after.input = before.input ∨ role = .read ∧ after.input = before.input.takeLine.2 := by
  cases role with
  | read => exact Or.inr ⟨rfl, effect⟩
  | _ => exact Or.inl effect

/-- Only a write changes the output stream. -/
theorem OutputEffect.changed {instruction : Instruction} {before after : State} {role : Role}
    (effect : role.OutputEffect instruction before after) :
    after.output = before.output ∨ role = .write ∧
      ∃ value, instruction.valueAt before.frames 0 = .ok value ∧
        before.output.write value.output = .ok after.output := by
  cases role with
  | write => exact Or.inr ⟨rfl, effect⟩
  | _ => exact Or.inl effect

/-- Only the two roles for debugging change the diagnostic stream. -/
theorem DiagnosticEffect.changed {site : Site} {instruction : Instruction}
    {before after : State} {role : Role}
    (effect : role.DiagnosticEffect site instruction before after) :
    after.diagnostics = before.diagnostics ∨ role = .debugBreak ∨ role = .debugPrint ∧
      ∃ value, instruction.valueAt before.frames 0 = .ok value ∧
        before.diagnostics.write value.output = .ok after.diagnostics := by
  cases role with
  | debugBreak => exact Or.inr (Or.inl rfl)
  | debugPrint =>
      obtain ⟨value, denoted, written⟩ := effect
      by_cases wanted : site.debugOutput = true
      · rw [if_pos wanted] at written
        exact Or.inr (Or.inr ⟨rfl, value, denoted, written⟩)
      · rw [if_neg wanted] at written
        exact Or.inl written
  | _ => exact Or.inl effect

/-- Only a call and a return change the call stack. -/
theorem CallEffect.changed {instruction : Instruction} {position : Nat} {before after : List Nat}
    {control : Transfer} {role : Role}
    (effect : role.CallEffect instruction position before after control) :
    after = before ∨ role = .call ∨ role = .ret := by
  cases role with
  | call => exact Or.inr (Or.inl rfl)
  | ret => exact Or.inr (Or.inr rfl)
  | _ => exact Or.inl effect.1

/-- Only the roles that are about the operand stack change it. -/
theorem OperandEffect.changed {instruction : Instruction} {before after : State} {role : Role}
    (effect : role.OperandEffect instruction before after) :
    after.operands = before.operands ∨ role = .push ∨ role = .pop ∨ role = .clear ∨
      role.isStackForm = true := by
  cases role with
  | push | pop | clear | binaryOnStack | unaryOnStack | jumpIfOnStack =>
      simp [Role.isStackForm]
  | _ => exact Or.inl effect

end Role

/-- What a failed execution leaves of the operand stack: at most two values were put on top
of it and are still there, or at most two were taken from it. -/
def Unsettled (before after : List Value) : Prop :=
  ∃ extra : List Value, extra.length ≤ 2 ∧ (after = extra ++ before ∨ before = extra ++ after)

namespace Unsettled

theorem refl (stack : List Value) : Unsettled stack stack :=
  ⟨[], Nat.zero_le 2, Or.inl rfl⟩

theorem one_more (value : Value) (stack : List Value) : Unsettled stack (value :: stack) :=
  ⟨[value], Nat.le_succ 1, Or.inl rfl⟩

theorem two_more (first second : Value) (stack : List Value) :
    Unsettled stack (second :: first :: stack) :=
  ⟨[second, first], Nat.le_refl 2, Or.inl rfl⟩

theorem one_less (value : Value) (stack : List Value) : Unsettled (value :: stack) stack :=
  ⟨[value], Nat.le_succ 1, Or.inr rfl⟩

theorem two_less (first second : Value) (stack : List Value) :
    Unsettled (second :: first :: stack) stack :=
  ⟨[second, first], Nat.le_refl 2, Or.inr rfl⟩

variable {before after : List Value}

/-- What lies below the two topmost values stays in place. -/
theorem suffix (unsettled : Unsettled before after) : before.drop 2 <:+ after := by
  rcases unsettled with ⟨extra, few, grown | shrunk⟩
  · rw [grown]
    exact (List.drop_suffix 2 before).trans (List.suffix_append extra before)
  · rw [shrunk, List.drop_append, List.drop_eq_nil_of_le few, List.nil_append]
    exact List.drop_suffix _ after

theorem length_le (unsettled : Unsettled before after) : after.length ≤ before.length + 2 := by
  rcases unsettled with ⟨extra, few, grown | shrunk⟩
  · rw [grown, List.length_append]
    omega
  · rw [shrunk, List.length_append]
    omega

end Unsettled

/-- An exit code that is asked for and given is in the range of exit codes. -/
theorem exitCodeOf_le {value : Value} {code : Nat} (asked : exitCodeOf value = .ok code) :
    code ≤ maxExitCode := by
  unfold exitCodeOf at asked
  split at asked
  · split at asked
    · rename_i bounds
      cases asked
      omega
    · cases asked
  · cases asked

namespace Action

attribute [local simp] ensures_pure ensures_throw ensures_map ensures_bind ensures_require
  ensures_ite ensures_get ensures_onFrames ensures_push ensures_pop ensures_clear
  ensures_pushCall ensures_popCall ensures_valueOf ensures_symbolValue ensures_peekAt
  ensures_assignAt ensures_write ensures_writeDiagnostic ensures_takeLine ensures_pushSymbol
  ensures_binary ensures_unary ensures_jumpIf

/-- A conditional jump leaves the call stack alone and goes on or to its label. -/
theorem ensures_jumpIf_calls (program : Program) (instruction : Instruction) (equal : Bool)
    (state : State) :
    Ensures (jumpIf program instruction equal) state
      (fun control after => after.calls = state.calls ∧
        (control = .next ∨ ∃ name, instruction.labelAt 0 = .ok name ∧ control = .toLabel name))
      (fun _ after => after.calls = state.calls) := by
  rw [ensures_jumpIf]
  refine ⟨fun label found => ⟨fun _ => ⟨fun right left rest _ => ⟨fun outcome _ => ?_, ?_⟩, ?_⟩,
    ?_⟩, ?_⟩
  · refine ⟨rfl, ?_⟩
    split
    · exact Or.inr ⟨label, found, rfl⟩
    · exact Or.inl rfl
  all_goals simp

theorem ensures_execute_calls (site : Site) (instruction : Instruction) (role : Role)
    (state : State) :
    Ensures (execute site instruction role) state
      (fun control after =>
        role.CallEffect instruction site.position state.calls after.calls control)
      (fun _ after => after.calls = state.calls) := by
  cases role with
  | jumpIf equal =>
      simp only [execute, ensures_bind, ensures_pushSymbol, implies_true, and_true]
      intro left _ right _
      exact ensures_jumpIf_calls site.program instruction equal _
  | jumpIfOnStack equal => exact ensures_jumpIf_calls site.program instruction equal state
  | exit =>
      simp only [execute, ensures_bind, ensures_symbolValue, ensures_require, ensures_pure,
        implies_true, and_true]
      intro value _ code asked
      exact ⟨rfl, code, exitCodeOf_le asked, rfl⟩
  | _ => simp [execute, Role.CallEffect]

theorem ensures_execute_output (site : Site) (instruction : Instruction) (role : Role)
    (state : State) :
    Ensures (execute site instruction role) state
      (fun _ after => role.OutputEffect instruction state after)
      (fun _ after => after.output = state.output) := by
  cases role with
  | write =>
      simp only [execute, ensures_bind, ensures_symbolValue, ensures_write, ensures_pure,
        implies_true, and_true]
      intro value denoted output written
      exact ⟨value, denoted, written⟩
  | _ => simp [execute, Role.OutputEffect]

theorem ensures_execute_diagnostics (site : Site) (instruction : Instruction) (role : Role)
    (state : State) :
    Ensures (execute site instruction role) state
      (fun _ after => role.DiagnosticEffect site instruction state after)
      (fun _ after => after.diagnostics = state.diagnostics) := by
  cases role with
  | debugPrint =>
      unfold execute Role.DiagnosticEffect
      cases site.debugOutput <;> simp +contextual
  | debugBreak =>
      unfold execute Role.DiagnosticEffect
      cases site.debugOutput <;> simp
  | _ => simp [execute, Role.DiagnosticEffect]

theorem ensures_execute_input (site : Site) (instruction : Instruction) (role : Role)
    (state : State) :
    Ensures (execute site instruction role) state
      (fun _ after => role.InputEffect state after)
      (fun _ after => after.input = state.input ∨
        role = .read ∧ after.input = state.input.takeLine.2) := by
  cases role <;> simp [execute, Role.InputEffect]

attribute [local simp] Unsettled.refl Unsettled.one_more Unsettled.two_more Unsettled.one_less
  Unsettled.two_less

theorem ensures_execute_operands (site : Site) (instruction : Instruction) (role : Role)
    (state : State) :
    Ensures (execute site instruction role) state
      (fun _ after => role.OperandEffect instruction state after)
      (fun _ after => Unsettled state.operands after.operands) := by
  cases role with
  | binaryOnStack operation =>
      simp only [execute, ensures_bind, ensures_binary, ensures_pure]
      refine ⟨fun right left rest stack => ⟨fun result computed => ?_, fun error _ => ?_⟩, ?_, ?_⟩
      · exact ⟨right, left, rest, result, stack, computed, rfl⟩
      · exact stack ▸ Unsettled.two_less left right rest
      · exact fun only stack => stack ▸ Unsettled.one_less only []
      · exact fun _ => Unsettled.refl state.operands
  | unaryOnStack operation =>
      simp only [execute, ensures_bind, ensures_unary, ensures_pure]
      refine ⟨fun operand rest stack => ⟨fun result computed => ?_, fun error _ => ?_⟩, ?_⟩
      · exact ⟨operand, rest, result, stack, computed, rfl⟩
      · exact stack ▸ Unsettled.one_less operand rest
      · exact fun _ => Unsettled.refl state.operands
  | push | pop | binaryInto | unaryInto | jumpIf | jumpIfOnStack =>
      simp +contextual [execute, Role.OperandEffect]
  | _ => simp [execute, Role.OperandEffect]

end Action
end FrameMachine
