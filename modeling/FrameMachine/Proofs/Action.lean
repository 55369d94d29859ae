import FrameMachine.Machine.Execute
import FrameMachine.Proofs.Frames

namespace FrameMachine

/-!
# Reasoning about actions

An action ends well with a result or badly with an error, and in both cases it
leaves a state behind.  `Action.Ensures` says what holds in either case.  It is
computed through sequencing, so that an execution is followed operation by
operation without looking into any of them, and each operation of the machine has
one rule here.

The value that an operand denotes depends on the frames alone.  `Instruction.valueAt` is
that dependency as a function, and the rules speak about it.
-/

namespace FrameStore

/-- The value of a symbol in these frames. -/
def evaluate (store : FrameStore) : Symbol → Except Error Value
  | .var v => store.read v
  | .literal value => .ok value

/-- The value of a symbol in these frames, which may be the placeholder. -/
def inspect (store : FrameStore) : Symbol → Except Error Value
  | .var v => store.peek v
  | .literal value => .ok value

end FrameStore

namespace Instruction

/-- The value that the symbol in a slot denotes in the given frames. -/
def valueAt (instruction : Instruction) (store : FrameStore) (slot : Nat) :
    Except Error Value :=
  instruction.symbolAt slot >>= store.evaluate

end Instruction

namespace Action

variable {α β : Type}

/-- What an action started in `state` ensures: `success` of its result and the
state it leaves, or `failure` of its error and the state it leaves. -/
def Ensures (action : Action α) (state : State) (success : α → State → Prop)
    (failure : Error → State → Prop) : Prop :=
  match action.run state with
  | .ok value after => success value after
  | .error error after => failure error after

variable {state : State} {success : α → State → Prop} {failure : Error → State → Prop}

/-! ## Sequencing -/

theorem ensures_pure (value : α) :
    Ensures (pure value) state success failure ↔ success value state :=
  Iff.rfl

theorem ensures_throw (error : Error) :
    Ensures (throw error : Action α) state success failure ↔ failure error state :=
  Iff.rfl

/-- The second action starts where the first one ended well.  An error of the
first one is the error of both. -/
theorem ensures_bind (action : Action β) (next : β → Action α) :
    Ensures (action >>= next) state success failure ↔
      Ensures action state (fun value after => Ensures (next value) after success failure)
        failure := by
  change (match EStateM.bind action next state with
    | .ok value after => success value after
    | .error error after => failure error after) ↔ _
  unfold EStateM.bind Ensures EStateM.run
  cases action state <;> exact Iff.rfl

theorem ensures_map (action : Action β) (change : β → α) :
    Ensures (change <$> action) state success failure ↔
      Ensures action state (fun value => success (change value)) failure := by
  rw [map_eq_pure_bind, ensures_bind]
  exact Iff.rfl

/-- What is ensured may be weakened. -/
theorem Ensures.imp {action : Action α} {success' : α → State → Prop}
    {failure' : Error → State → Prop} (ensured : Ensures action state success failure)
    (onSuccess : ∀ value after, success value after → success' value after)
    (onFailure : ∀ error after, failure error after → failure' error after) :
    Ensures action state success' failure' := by
  unfold Ensures at ensured ⊢
  cases ending : action.run state with
  | ok value after =>
      rw [ending] at ensured
      exact onSuccess value after ensured
  | error error after =>
      rw [ending] at ensured
      exact onFailure error after ensured

/-- What is ensured twice is ensured together. -/
theorem Ensures.and {action : Action α} {success' : α → State → Prop}
    {failure' : Error → State → Prop} (ensured : Ensures action state success failure)
    (alsoEnsured : Ensures action state success' failure') :
    Ensures action state (fun value after => success value after ∧ success' value after)
      (fun error after => failure error after ∧ failure' error after) := by
  unfold Ensures at ensured alsoEnsured ⊢
  cases ending : action.run state with
  | ok value after =>
      rw [ending] at ensured alsoEnsured
      exact ⟨ensured, alsoEnsured⟩
  | error error after =>
      rw [ending] at ensured alsoEnsured
      exact ⟨ensured, alsoEnsured⟩

/-- A result is used by the action exactly when there is one. -/
theorem ensures_require (result : Except Error α) :
    Ensures (require result) state success failure ↔
      (∀ value, result = .ok value → success value state) ∧
        (∀ error, result = .error error → failure error state) := by
  cases result with
  | ok value =>
      change success value state ↔ _
      simp only [Except.ok.injEq, forall_eq', reduceCtorEq, false_implies, implies_true, and_true]
  | error error =>
      change failure error state ↔ _
      simp only [Except.error.injEq, forall_eq', reduceCtorEq, false_implies, implies_true,
        true_and]

theorem ensures_ite (condition : Prop) [Decidable condition] (first second : Action α) :
    Ensures (if condition then first else second) state success failure ↔
      (condition → Ensures first state success failure) ∧
        (¬condition → Ensures second state success failure) := by
  by_cases holds : condition <;> simp [holds]

theorem ensures_get {success : State → State → Prop} :
    Ensures get state success failure ↔ success state state :=
  Iff.rfl

theorem ensures_get_bind (next : State → Action α) :
    Ensures (get >>= next) state success failure ↔
      Ensures (next state) state success failure :=
  Iff.rfl

theorem ensures_set (after : State) {success : PUnit → State → Prop} :
    Ensures (set after) state success failure ↔ success ⟨⟩ after :=
  Iff.rfl

/-! ## One rule for each operation -/

theorem ensures_onFrames (change : FrameStore → FrameStore.Change)
    {success : Unit → State → Prop} :
    Ensures (onFrames change) state success failure ↔
      (∀ frames, change state.frames = .ok () frames →
        success () { state with frames := frames }) ∧
        (∀ error frames, change state.frames = .error error frames →
          failure error { state with frames := frames }) := by
  unfold Ensures onFrames EStateM.run
  dsimp only
  cases change state.frames <;> simp

/-- A change that is atomic leaves the state as it was if it fails. -/
theorem ensures_onFrames_of_isAtomic {change : FrameStore → FrameStore.Change}
    (atomic : FrameStore.IsAtomic change) {success : Unit → State → Prop} :
    Ensures (onFrames change) state success failure ↔
      (∀ frames, change state.frames = .ok () frames →
        success () { state with frames := frames }) ∧
        (∀ error, change state.frames = .error error state.frames → failure error state) := by
  rw [ensures_onFrames]
  refine and_congr_right fun _ => ⟨fun failing error failed => failing error _ failed, ?_⟩
  intro failing error frames failed
  obtain rfl := atomic _ _ _ failed
  exact failing error failed

theorem ensures_push (value : Value) {success : Unit → State → Prop} :
    Ensures (push value) state success failure ↔
      success () { state with operands := value :: state.operands } :=
  Iff.rfl

theorem ensures_pop {success : Value → State → Prop} :
    Ensures pop state success failure ↔
      (∀ value rest, state.operands = value :: rest →
        success value { state with operands := rest }) ∧
        (state.operands = [] → failure .emptyOperandStack state) := by
  unfold pop
  rw [ensures_get_bind]
  cases state.operands with
  | nil =>
      simp only [ensures_throw, reduceCtorEq, false_implies, implies_true, true_and, true_implies]
  | cons top rest =>
      simp only [ensures_bind, ensures_set, ensures_pure, List.cons.injEq, and_imp, reduceCtorEq,
        false_implies, and_true]
      exact ⟨fun holds _ _ value rest => value ▸ rest ▸ holds, fun holds => holds _ _ rfl rfl⟩

theorem ensures_clear {success : Unit → State → Prop} :
    Ensures clear state success failure ↔ success () { state with operands := [] } :=
  Iff.rfl

theorem ensures_pushCall (position : Nat) {success : Unit → State → Prop} :
    Ensures (pushCall position) state success failure ↔
      success () { state with calls := position :: state.calls } :=
  Iff.rfl

theorem ensures_popCall {success : Nat → State → Prop} :
    Ensures popCall state success failure ↔
      (∀ position rest, state.calls = position :: rest →
        success position { state with calls := rest }) ∧
        (state.calls = [] → failure .emptyCallStack state) := by
  unfold popCall
  rw [ensures_get_bind]
  cases state.calls with
  | nil =>
      simp only [ensures_throw, reduceCtorEq, false_implies, implies_true, true_and, true_implies]
  | cons top rest =>
      simp only [ensures_bind, ensures_set, ensures_pure, List.cons.injEq, and_imp, reduceCtorEq,
        false_implies, and_true]
      exact ⟨fun holds _ _ value rest => value ▸ rest ▸ holds, fun holds => holds _ _ rfl rfl⟩

/-- The value of a symbol is required of the frames. -/
theorem valueOf_eq (symbol : Symbol) :
    valueOf symbol = get >>= fun state => require (state.frames.evaluate symbol) := by
  cases symbol <;> rfl

theorem ensures_valueOf (symbol : Symbol) {success : Value → State → Prop} :
    Ensures (valueOf symbol) state success failure ↔
      (∀ value, state.frames.evaluate symbol = .ok value → success value state) ∧
        (∀ error, state.frames.evaluate symbol = .error error → failure error state) := by
  rw [valueOf_eq, ensures_get_bind, ensures_require]

theorem ensures_symbolValue (instruction : Instruction) (slot : Nat)
    {success : Value → State → Prop} :
    Ensures (symbolValue instruction slot) state success failure ↔
      (∀ value, instruction.valueAt state.frames slot = .ok value → success value state) ∧
        (∀ error, instruction.valueAt state.frames slot = .error error →
          failure error state) := by
  unfold symbolValue Instruction.valueAt
  rw [ensures_bind]
  cases instruction.symbolAt slot with
  | ok symbol => exact ensures_valueOf symbol
  | error error =>
      change Ensures (require (.error error : Except Error Value)) state success failure ↔ _
      exact ensures_require (.error error)

/-- The same for a symbol that may be looked at before it has a value. -/
theorem peekAt_eq (symbol : Symbol) :
    peekAt symbol = get >>= fun state => require (state.frames.inspect symbol) := by
  cases symbol <;> rfl

theorem ensures_peekAt (symbol : Symbol) {success : Value → State → Prop} :
    Ensures (peekAt symbol) state success failure ↔
      (∀ value, state.frames.inspect symbol = .ok value → success value state) ∧
        (∀ error, state.frames.inspect symbol = .error error → failure error state) := by
  rw [peekAt_eq, ensures_get_bind, ensures_require]

theorem ensures_assignAt (instruction : Instruction) (slot : Nat) (value : Value)
    {success : Unit → State → Prop} :
    Ensures (assignAt instruction slot value) state success failure ↔
      (∀ v, instruction.varAt slot = .ok v →
        (∀ frames, state.frames.assign v value = .ok () frames →
          success () { state with frames := frames }) ∧
        (∀ error, state.frames.assign v value = .error error state.frames →
          failure error state)) ∧
      (∀ error, instruction.varAt slot = .error error → failure error state) := by
  unfold assignAt
  rw [ensures_bind, ensures_require]
  simp only [ensures_onFrames_of_isAtomic (FrameStore.isAtomic_assign _ value)]

theorem ensures_write (text : String) {success : Unit → State → Prop} :
    Ensures (write text) state success failure ↔
      (∀ output, state.output.write text = .ok output →
        success () { state with output := output }) ∧
        (∀ cause, state.output.write text = .error cause →
          failure (.stream cause) state) := by
  unfold write
  rw [ensures_get_bind]
  cases state.output.write text <;> simp [ensures_set, ensures_throw]

theorem ensures_writeDiagnostic (text : String) {success : Unit → State → Prop} :
    Ensures (writeDiagnostic text) state success failure ↔
      (∀ diagnostics, state.diagnostics.write text = .ok diagnostics →
        success () { state with diagnostics := diagnostics }) ∧
        (∀ cause, state.diagnostics.write text = .error cause →
          failure (.stream cause) state) := by
  unfold writeDiagnostic
  rw [ensures_get_bind]
  cases state.diagnostics.write text <;> simp [ensures_set, ensures_throw]

theorem ensures_takeLine {success : List UInt8 → State → Prop} :
    Ensures takeLine state success failure ↔
      (∀ line, state.input.takeLine.1 = .ok line →
        success line { state with input := state.input.takeLine.2 }) ∧
        (∀ cause, state.input.takeLine.1 = .error cause →
          failure (.stream cause) { state with input := state.input.takeLine.2 }) := by
  unfold takeLine
  rw [ensures_get_bind]
  rcases state.input.takeLine with ⟨line, input⟩
  rw [ensures_bind, ensures_set]
  cases line <;> simp [ensures_pure, ensures_throw]

/-! ## Composed operations -/

theorem ensures_pushSymbol (instruction : Instruction) (slot : Nat)
    {success : Unit → State → Prop} :
    Ensures (pushSymbol instruction slot) state success failure ↔
      (∀ value, instruction.valueAt state.frames slot = .ok value →
        success () { state with operands := value :: state.operands }) ∧
        (∀ error, instruction.valueAt state.frames slot = .error error →
          failure error state) := by
  unfold pushSymbol
  rw [ensures_bind, ensures_symbolValue]
  exact Iff.rfl

/-- Two values are popped, the right operand first.  A single value is lost. -/
theorem ensures_pop_pop {success : Value → Value → State → Prop} :
    Ensures pop state
        (fun right after => Ensures pop after (fun left => success left right) failure) failure ↔
      (∀ right left rest, state.operands = right :: left :: rest →
        success left right { state with operands := rest }) ∧
      (∀ only, state.operands = [only] →
        failure .emptyOperandStack { state with operands := [] }) ∧
      (state.operands = [] → failure .emptyOperandStack state) := by
  simp only [ensures_pop]
  constructor
  · rintro ⟨several, none⟩
    exact ⟨fun right left rest stack => (several right _ stack).1 left rest rfl,
      fun only stack => (several only _ stack).2 rfl, none⟩
  · rintro ⟨two, one, none⟩
    refine ⟨fun right rest stack => ⟨fun left rest' stack' => ?_, fun stack' => ?_⟩, none⟩
    · exact two right left rest' (stack' ▸ stack)
    · subst stack'
      exact one right stack

theorem ensures_binary (operation : BinaryOperation) {success : Unit → State → Prop} :
    Ensures (binary operation) state success failure ↔
      (∀ right left rest, state.operands = right :: left :: rest →
        (∀ result, operation.apply left right = .ok result →
          success () { state with operands := result :: rest }) ∧
        (∀ error, operation.apply left right = .error error →
          failure error { state with operands := rest })) ∧
      (∀ only, state.operands = [only] →
        failure .emptyOperandStack { state with operands := [] }) ∧
      (state.operands = [] → failure .emptyOperandStack state) := by
  unfold binary
  simp only [ensures_bind, ensures_require, ensures_push]
  exact ensures_pop_pop

theorem ensures_unary (operation : UnaryOperation) {success : Unit → State → Prop} :
    Ensures (unary operation) state success failure ↔
      (∀ operand rest, state.operands = operand :: rest →
        (∀ result, operation.apply operand = .ok result →
          success () { state with operands := result :: rest }) ∧
        (∀ error, operation.apply operand = .error error →
          failure error { state with operands := rest })) ∧
      (state.operands = [] → failure .emptyOperandStack state) := by
  unfold unary
  simp only [ensures_bind, ensures_pop, ensures_require, ensures_push]

theorem ensures_jumpIf (program : Program) (instruction : Instruction) (equal : Bool)
    {success : Transfer → State → Prop} :
    Ensures (jumpIf program instruction equal) state success failure ↔
      (∀ label, instruction.labelAt 0 = .ok label →
        (program.labels.contains label = true →
          (∀ right left rest, state.operands = right :: left :: rest →
            (∀ found, equals left right = .ok found →
              success (if found = equal then .toLabel label else .next)
                { state with operands := rest }) ∧
            (∀ error, equals left right = .error error →
              failure error { state with operands := rest })) ∧
          (∀ only, state.operands = [only] →
            failure .emptyOperandStack { state with operands := [] }) ∧
          (state.operands = [] → failure .emptyOperandStack state)) ∧
        (program.labels.contains label = false → failure (.undefinedLabel label) state)) ∧
      (∀ error, instruction.labelAt 0 = .error error → failure error state) := by
  have choice (found : Bool) (label : String) :
      (if (found == equal) = true then pure (.toLabel label) else pure .next : Action Transfer) =
        pure (if found = equal then .toLabel label else .next) := by
    by_cases same : found = equal <;> simp [same]
  unfold jumpIf
  rw [ensures_bind, ensures_require]
  refine and_congr (forall_congr' fun label => imp_congr_right fun _ => ?_) Iff.rfl
  cases program.labels.contains label with
  | false => simp [ensures_throw]
  | true =>
      simp only [if_true, ensures_bind, ensures_require, choice, ensures_pure, true_implies,
        reduceCtorEq, false_implies, and_true]
      exact ensures_pop_pop

end Action
end FrameMachine
