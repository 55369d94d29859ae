import FrameMachine.Proofs.Regular

namespace FrameMachine

/-!
# What an error blames

Most errors of an execution lie in its operands, in the values and frames that it computes
with, or in a stream.  Three errors lie in the machine: an operand stack that is too short, an
empty call stack, and a label that is nowhere.  Each of these three has one cause, which can be
seen in the program and in the state before the execution.  `Blames` lists the causes, and all
roles are followed to show that the list is complete.

Of the operand stack only the depth matters.  `Action.Serves` says how deep it must be for an action
and how deep it is then, and it is computed through sequencing.  A role that takes its operands from
the instruction puts them on the stack itself, so that they are there when they are popped.
-/

/-- Whether an error lies in a stack or in a label. -/
def Error.isMechanical : Error → Bool
  | .emptyOperandStack | .emptyCallStack | .undefinedLabel _ => true
  | _ => false

theorem Error.isMechanical_of_isComputed {error : Error} (computed : error.isComputed = true) :
    error.isMechanical = false := by
  cases error <;> simp_all [Error.isComputed, Error.isMechanical]

/-- The number of values that a role takes from the operand stack without having put them
there. -/
def Role.operandsTaken : Role → Nat
  | .pop | .unaryOnStack _ => 1
  | .binaryOnStack _ | .jumpIfOnStack _ => 2
  | _ => 0

/-- What the error of an execution that starts in the given state blames. -/
inductive Blames (site : Site) (instruction : Instruction) (role : Role) (state : State) :
    Error → Prop
  | elsewhere {error : Error} (other : error.isMechanical = false) :
      Blames site instruction role state error
  | operandStack (short : state.operands.length < role.operandsTaken) :
      Blames site instruction role state .emptyOperandStack
  | callStack (returns : role = .ret) (empty : state.calls = []) :
      Blames site instruction role state .emptyCallStack
  | label {name : String} (named : instruction.labelAt 0 = .ok name)
      (undefined : site.program.labels.contains name = false) :
      Blames site instruction role state (.undefinedLabel name)

/-- If a label is to blame, then it is the one in the first slot. -/
theorem Blames.exists_undefined {site : Site} {instruction : Instruction} {role : Role}
    {state : State} {error : Error} (blames : Blames site instruction role state error)
    (kind : error.kind = .undefinedLabel) :
    ∃ name, instruction.labelAt 0 = .ok name ∧ site.program.labels.contains name = false := by
  cases blames with
  | elsewhere other => cases error <;> simp_all [Error.kind, Error.isMechanical]
  | operandStack short => cases kind
  | callStack returns empty => cases kind
  | label named undefined => exact ⟨_, named, undefined⟩

section Elsewhere

variable {instruction : Instruction} {slot : Nat} {store : FrameStore} {error : Error}

/-- An operand that is missing or of the wrong kind is a flaw of the program. -/
theorem Instruction.isMechanical_of_refuses {kind : Slot}
    (refuses : instruction.Refuses slot error kind) : error.isMechanical = false := by
  cases kind <;>
    grind [Refuses, varAt, symbolAt, labelAt, typeAt, operandAt, mismatch, Error.isMechanical]

theorem FrameStore.isMechanical_evaluate {symbol : Symbol}
    (failed : store.evaluate symbol = .error error) : error.isMechanical = false := by
  cases symbol with
  | var v => exact Error.isMechanical_of_isComputed ((store.read_isRegular v).error failed)
  | literal value => cases failed

theorem FrameStore.isMechanical_inspect {symbol : Symbol}
    (failed : store.inspect symbol = .error error) : error.isMechanical = false := by
  cases symbol with
  | var v => exact Error.isMechanical_of_isComputed (peek_error failed)
  | literal value => cases failed

theorem Instruction.isMechanical_valueAt (failed : instruction.valueAt store slot = .error error) :
    error.isMechanical = false := by
  unfold valueAt at failed
  cases found : instruction.symbolAt slot with
  | error refused =>
      rw [found] at failed
      cases failed
      have refuses : instruction.Refuses slot error .symb := found
      exact isMechanical_of_refuses refuses
  | ok symbol =>
      rw [found] at failed
      exact FrameStore.isMechanical_evaluate failed

end Elsewhere

namespace Action

variable {site : Site} {instruction : Instruction} {α β : Type} {depth middle final : Nat}

/-- The action has what it needs if there are `depth` operands, and there are `final` of them when
it has ended well.  If it fails, then the stack was not so deep, or the error is not one of the
machine, or the label of the instruction is nowhere. -/
def Serves (site : Site) (instruction : Instruction) (depth : Nat) (action : Action α)
    (final : Nat) : Prop :=
  ∀ state, Ensures action state
    (fun _ after => depth ≤ state.operands.length → final ≤ after.operands.length)
    (fun error _ => error.isMechanical = false ∨
      error = .emptyOperandStack ∧ state.operands.length < depth ∨
      ∃ name, error = .undefinedLabel name ∧ instruction.labelAt 0 = .ok name ∧
        site.program.labels.contains name = false)

/-! ## Depths in sequence -/

theorem serves_pure (value : α) : Serves site instruction depth (pure value) 0 :=
  fun _ _ => Nat.zero_le _

theorem Serves.bind {action : Action β} {next : β → Action α}
    (first : Serves site instruction depth action middle)
    (second : ∀ value, Serves site instruction middle (next value) final) :
    Serves site instruction depth (action >>= next) final := by
  intro state
  rw [ensures_bind]
  refine (first state).imp (fun value between deep => ?_) fun _ _ => id
  refine (second value between).imp (fun _ after deeper enough => deeper (deep enough)) ?_
  intro error after failure
  -- What is too short in between was too short before.
  refine failure.imp_right (Or.imp_left (And.imp_right fun short => ?_))
  exact Nat.lt_of_not_le fun enough => Nat.not_le_of_lt short (deep enough)

/-- An action that leaves the operands alone and has no mechanical error of its own can stand
anywhere. -/
theorem serves_of_aside {action : Action α}
    (aside : ∀ state, Ensures action state (fun _ after => after.operands = state.operands)
      (fun error _ => error.isMechanical = false)) :
    Serves site instruction depth action depth := by
  intro state
  refine (aside state).imp (fun _ after same enough => ?_) fun _ _ => Or.inl
  rwa [same]

theorem serves_ite {condition : Prop} [Decidable condition] {first second : Action α}
    (firstServes : Serves site instruction depth first final)
    (secondServes : Serves site instruction depth second final) :
    Serves site instruction depth (if condition then first else second) final := by
  split
  · exact firstServes
  · exact secondServes

theorem serves_get : Serves site instruction depth get depth :=
  serves_of_aside fun _ => rfl

theorem serves_require {result : Except Error α}
    (failing : ∀ error, result = .error error → error.isMechanical = false) :
    Serves site instruction depth (require result) depth := by
  refine serves_of_aside fun state => ?_
  rw [ensures_require]
  exact ⟨fun _ _ => rfl, failing⟩

theorem serves_computed {result : Except Error α}
    (failing : ∀ error, result = .error error → error.isComputed = true) :
    Serves site instruction depth (require result) depth :=
  serves_require fun error failed => Error.isMechanical_of_isComputed (failing error failed)

theorem serves_operand {result : Except Error α} (slot : Nat) (kind : Slot)
    (failing : ∀ error, result = .error error → instruction.Refuses slot error kind) :
    Serves site instruction depth (require result) depth :=
  serves_require fun error failed => Instruction.isMechanical_of_refuses (failing error failed)

theorem serves_onFrames {change : FrameStore → FrameStore.Change}
    (failing : ∀ store error after, change store = .error error after → error.isComputed = true) :
    Serves site instruction depth (onFrames change) depth := by
  refine serves_of_aside fun state => ?_
  rw [ensures_onFrames]
  exact ⟨fun _ _ => rfl, fun error after failed =>
    Error.isMechanical_of_isComputed (failing _ error after failed)⟩

theorem serves_valueOf (symbol : Symbol) :
    Serves site instruction depth (valueOf symbol) depth := by
  refine serves_of_aside fun state => ?_
  rw [ensures_valueOf]
  exact ⟨fun _ _ => rfl, fun _ => FrameStore.isMechanical_evaluate⟩

theorem serves_symbolValue (slot : Nat) :
    Serves site instruction depth (symbolValue instruction slot) depth := by
  refine serves_of_aside fun state => ?_
  rw [ensures_symbolValue]
  exact ⟨fun _ _ => rfl, fun _ => Instruction.isMechanical_valueAt⟩

theorem serves_peekAt (symbol : Symbol) :
    Serves site instruction depth (peekAt symbol) depth := by
  refine serves_of_aside fun state => ?_
  rw [ensures_peekAt]
  exact ⟨fun _ _ => rfl, fun _ => FrameStore.isMechanical_inspect⟩

theorem serves_assign (v : Variable) (value : Value) :
    Serves site instruction depth (onFrames fun frames => frames.assign v value) depth :=
  serves_onFrames fun _ _ _ => FrameStore.assign_error

theorem serves_assignAt (slot : Nat) (value : Value) :
    Serves site instruction depth (assignAt instruction slot value) depth :=
  (serves_operand slot .var fun _ => id).bind fun v => serves_assign v value

theorem serves_write (text : String) : Serves site instruction depth (write text) depth := by
  refine serves_of_aside fun state => ?_
  rw [ensures_write]
  exact ⟨fun _ _ => rfl, fun _ _ => rfl⟩

theorem serves_writeDiagnostic (text : String) :
    Serves site instruction depth (writeDiagnostic text) depth := by
  refine serves_of_aside fun state => ?_
  rw [ensures_writeDiagnostic]
  exact ⟨fun _ _ => rfl, fun _ _ => rfl⟩

theorem serves_takeLine : Serves site instruction depth takeLine depth := by
  refine serves_of_aside fun state => ?_
  rw [ensures_takeLine]
  exact ⟨fun _ _ => rfl, fun _ _ => rfl⟩

/-! ## Stacks and labels -/

theorem serves_pushCall (position : Nat) :
    Serves site instruction depth (pushCall position) depth := by
  refine serves_of_aside fun state => ?_
  rw [ensures_pushCall]

theorem serves_clear : Serves site instruction depth clear 0 := by
  intro state
  rw [ensures_clear]
  exact fun _ => Nat.zero_le _

theorem serves_pushSymbol (slot : Nat) :
    Serves site instruction depth (pushSymbol instruction slot) (depth + 1) := by
  intro state
  rw [ensures_pushSymbol]
  exact ⟨fun _ _ enough => Nat.succ_le_succ enough,
    fun _ failed => Or.inl (Instruction.isMechanical_valueAt failed)⟩

theorem serves_pop : Serves site instruction (depth + 1) pop depth := by
  intro state
  rw [ensures_pop]
  constructor
  · intro value rest stack enough
    rw [stack] at enough
    exact Nat.le_of_succ_le_succ enough
  · intro empty
    rw [empty]
    exact Or.inr (Or.inl ⟨rfl, Nat.succ_pos depth⟩)

theorem serves_push (value : Value) : Serves site instruction depth (push value) (depth + 1) := by
  intro state
  rw [ensures_push]
  exact Nat.succ_le_succ

theorem serves_binary (operation : BinaryOperation) :
    Serves site instruction (depth + 2) (binary operation) (depth + 1) := by
  refine serves_pop.bind fun right => serves_pop.bind fun left => ?_
  have regular := operation.apply_isRegular left right
  exact (serves_computed fun _ => regular.error).bind serves_push

theorem serves_unary (operation : UnaryOperation) :
    Serves site instruction (depth + 1) (unary operation) (depth + 1) := by
  refine serves_pop.bind fun operand => ?_
  have regular := operation.apply_isRegular operand
  exact (serves_computed fun _ => regular.error).bind serves_push

/-- The label is looked for before anything is popped. -/
theorem serves_jumpIf (equal : Bool) :
    Serves site instruction 2 (jumpIf site.program instruction equal) 0 := by
  intro state
  rw [ensures_jumpIf]
  refine ⟨fun label named => ⟨fun _ => ⟨?_, ?_, ?_⟩, fun undefined => ?_⟩, fun error failed => ?_⟩
  · intro right left rest stack
    exact ⟨fun _ _ _ => Nat.zero_le _,
      fun _ failed => Or.inl (Error.isMechanical_of_isComputed (equals_error failed))⟩
  · intro only stack
    rw [stack]
    exact Or.inr (Or.inl ⟨rfl, Nat.one_lt_two⟩)
  · intro empty
    rw [empty]
    exact Or.inr (Or.inl ⟨rfl, Nat.two_pos⟩)
  · exact Or.inr (Or.inr ⟨label, rfl, named, undefined⟩)
  · have refuses : instruction.Refuses 0 error .label := failed
    exact Or.inl (Instruction.isMechanical_of_refuses refuses)

/-! ## Roles -/

/-- Every role but the return needs the operands that it takes and nothing else of the machine. -/
theorem serves_execute (site : Site) (instruction : Instruction) {role : Role}
    (stays : role ≠ .ret) :
    Serves site instruction role.operandsTaken (execute site instruction role) 0 := by
  cases role with
  | move =>
      refine (serves_symbolValue 1).bind fun value => ?_
      exact (serves_assignAt 0 value).bind fun _ => serves_pure _
  | createFrame =>
      refine (serves_onFrames fun store error after failed => ?_).bind fun _ => serves_pure _
      cases failed
  | pushFrame =>
      exact (serves_onFrames fun _ _ _ => FrameStore.push_error).bind fun _ => serves_pure _
  | popFrame =>
      exact (serves_onFrames fun _ _ _ => FrameStore.pop_error).bind fun _ => serves_pure _
  | define =>
      refine (serves_operand 0 .var fun _ => id).bind fun v => ?_
      exact (serves_onFrames fun _ _ _ => FrameStore.define_error).bind fun _ => serves_pure _
  | call =>
      refine (serves_operand 0 .label fun _ => id).bind fun label => ?_
      exact (serves_pushCall _).bind fun _ => serves_pure _
  | ret => exact absurd rfl stays
  | push => exact (serves_pushSymbol 0).bind fun _ => serves_pure _
  | pop =>
      refine serves_pop.bind fun value => ?_
      exact (serves_assignAt 0 value).bind fun _ => serves_pure _
  | clear => exact serves_clear.bind fun _ => serves_pure _
  | binaryInto operation =>
      refine (serves_pushSymbol 1).bind fun _ => (serves_pushSymbol 2).bind fun _ => ?_
      refine (serves_binary operation).bind fun _ => serves_pop.bind fun result => ?_
      exact (serves_assignAt 0 result).bind fun _ => serves_pure _
  | unaryInto operation =>
      refine (serves_pushSymbol 1).bind fun _ => ?_
      refine (serves_unary operation).bind fun _ => serves_pop.bind fun result => ?_
      exact (serves_assignAt 0 result).bind fun _ => serves_pure _
  | binaryOnStack operation => exact (serves_binary operation).bind fun _ => serves_pure _
  | unaryOnStack operation => exact (serves_unary operation).bind fun _ => serves_pure _
  | read =>
      refine (serves_operand 1 .type fun _ => id).bind fun type => ?_
      refine serves_takeLine.bind fun line => ?_
      exact (serves_assignAt 0 _).bind fun _ => serves_pure _
  | write =>
      refine (serves_symbolValue 0).bind fun value => ?_
      exact (serves_write value.output).bind fun _ => serves_pure _
  | replaceChar =>
      refine (serves_operand 0 .var fun _ => id).bind fun v => ?_
      refine (serves_valueOf (.var v)).bind fun target => ?_
      refine (serves_symbolValue 1).bind fun index => (serves_symbolValue 2).bind fun source => ?_
      have regular := replaceChar_isRegular target index source
      refine (serves_computed fun _ => regular.error).bind fun result => ?_
      exact (serves_assign v result).bind fun _ => serves_pure _
  | kindOf =>
      refine (serves_operand 1 .symb fun _ => id).bind fun symbol => ?_
      refine (serves_peekAt symbol).bind fun value => ?_
      exact (serves_assignAt 0 _).bind fun _ => serves_pure _
  | label => exact serves_pure _
  | jump => exact (serves_operand 0 .label fun _ => id).bind fun label => serves_pure _
  | jumpIf equal =>
      refine (serves_pushSymbol 1).bind fun _ => (serves_pushSymbol 2).bind fun _ => ?_
      exact serves_jumpIf equal
  | jumpIfOnStack equal => exact serves_jumpIf equal
  | exit =>
      refine (serves_symbolValue 0).bind fun value => ?_
      exact (serves_computed fun _ => exitCodeOf_error).bind fun code => serves_pure _
  | debugPrint =>
      refine (serves_symbolValue 0).bind fun value => ?_
      exact serves_ite ((serves_writeDiagnostic _).bind fun _ => serves_pure _) (serves_pure _)
  | debugBreak =>
      refine serves_ite (serves_get.bind fun state => ?_) (serves_pure _)
      exact (serves_writeDiagnostic _).bind fun _ => serves_pure _

/-- Every error of an execution has its cause. -/
theorem ensures_execute_blames (site : Site) (instruction : Instruction) (role : Role)
    (state : State) :
    Ensures (execute site instruction role) state (fun _ _ => True)
      (fun error _ => Blames site instruction role state error) := by
  by_cases returns : role = .ret
  · subst returns
    rw [execute, ensures_bind, ensures_popCall]
    exact ⟨fun _ _ _ => trivial, fun empty => .callStack rfl empty⟩
  · refine (serves_execute site instruction returns state).imp (fun _ _ _ => trivial) ?_
    rintro error after (other | ⟨rfl, short⟩ | ⟨name, rfl, named, undefined⟩)
    · exact .elsewhere other
    · exact .operandStack short
    · exact .label named undefined

end Action
end FrameMachine
