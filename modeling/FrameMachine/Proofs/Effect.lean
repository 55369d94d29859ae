import FrameMachine.Proofs.Regular

namespace FrameMachine

/-!
# What an execution can do

An instruction prepares its result on the operand stack and in the streams, and
touches the frames at most once, as its last act.  `Role.FrameEffect` names that act
for each role.  An execution that fails has not touched the frames at all.

Which values an execution may handle and which errors it may end with is left to a
`Policy`.  Two policies govern checked instructions: under one the placeholder is never
handled, under the other an error that is not ordinary can only be that of a stream.
The same walk through all roles serves every policy, and each operation of the machine
appears in it with one rule.
-/

namespace InputStream

/-- Whether reading can fail. -/
def canFail (stream : InputStream) : Bool :=
  stream.failure.isSome

/-- A stream that can fail still can behind a line. -/
theorem canFail_takeLine (stream : InputStream) :
    stream.takeLine.2.canFail = stream.canFail := by
  unfold takeLine
  simp only
  split <;> rfl

theorem canFail_of_failure {stream : InputStream} {cause : StreamFailure}
    (failed : stream.takeLine.1 = .error cause) : stream.canFail = true := by
  unfold takeLine at failed
  simp only at failed
  split at failed
  · rename_i failure
    simp [canFail, failure]
  · cases failed

end InputStream

namespace OutputStream

/-- Whether writing can fail. -/
def canFail (stream : OutputStream) : Bool :=
  stream.capacity.isSome

/-- Writing changes what a stream holds, not how much it can hold. -/
theorem canFail_of_write {stream after : OutputStream} {text : String}
    (written : stream.write text = .ok after) : after.canFail = stream.canFail := by
  unfold write at written
  split at written <;> cases written
  rfl

/-- Only a stream of bounded capacity refuses a text. -/
theorem canFail_of_refusal {stream : OutputStream} {text : String} {cause : StreamFailure}
    (failed : stream.write text = .error cause) : stream.canFail = true := by
  unfold write at failed
  split at failed
  · cases failed
  · rename_i refused
    cases capacity : stream.capacity with
    | none => simp [accepts, capacity] at refused
    | some bound => simp [canFail, capacity]

end OutputStream

/-- Whether one of the streams can fail. -/
def State.canFail (state : State) : Bool :=
  state.input.canFail || state.output.canFail || state.diagnostics.canFail

/-- What an execution may handle and how it may end.  Every value but the placeholder
is admitted and every ordinary error is accepted. -/
structure Policy where
  admits : Value → Prop
  accepts : Error → Prop
  admits_initialized : ∀ value, value.isInitialized = true → admits value
  accepts_ordinary : ∀ error, error.isOrdinary = true → accepts error

namespace Policy

theorem accepts_computed (policy : Policy) {error : Error} (computed : error.isComputed = true) :
    policy.accepts error :=
  policy.accepts_ordinary error (Error.isOrdinary_of_isComputed computed)

/-- The policy that speaks about errors only: an error that is not ordinary must come
from a stream that can fail. -/
def ordinary (canFail : Bool) : Policy where
  admits _ := True
  accepts error := error.isOrdinary = true ∨ canFail = true ∧ ∃ cause, error = .stream cause
  admits_initialized _ _ := trivial
  accepts_ordinary _ ordinary := Or.inl ordinary

/-- The policy that speaks about values only: the placeholder is not admitted. -/
def initialized : Policy where
  admits value := value.isInitialized = true
  accepts _ := True
  admits_initialized _ initialized := initialized
  accepts_ordinary _ _ := trivial

/-- The policy allows for the operands of an instruction and for the streams of the
state it starts in. -/
structure Governs (policy : Policy) (instruction : Instruction) (origin : State) : Prop where
  accessor : ∀ {slot kind error}, instruction.opcode.signature[slot]? = some kind →
    instruction.Refuses slot error kind → policy.accepts error
  literal : ∀ {slot value}, instruction.symbolAt slot = .ok (.literal value) →
    policy.admits value
  stream : origin.canFail = true → ∀ cause, policy.accepts (.stream cause)

theorem ordinary_governs {instruction : Instruction} (passed : instruction.IsChecked)
    (origin : State) : (ordinary origin.canFail).Governs instruction origin where
  accessor declared refuses := absurd refuses ((passed.provides declared).not_refuses _)
  literal _ := trivial
  stream canFail cause := Or.inr ⟨canFail, cause, rfl⟩

theorem initialized_governs {instruction : Instruction} (passed : instruction.IsChecked)
    (origin : State) : initialized.Governs instruction origin where
  accessor _ _ := trivial
  literal found := passed.literal_isInitialized found
  stream _ _ := trivial

/-- A state during an execution that started in `origin`: its frames satisfy `effect`,
its streams can fail as those of `origin` can, and its operands are admitted. -/
structure Holds (policy : Policy) (origin : State) (effect : FrameStore → Prop)
    (state : State) : Prop where
  frames : effect state.frames
  canFail : state.canFail = origin.canFail
  operands : ∀ value ∈ state.operands, policy.admits value

/-- An action that may follow as long as the frames are untouched.  It ends well with
an `effect` on the frames and a `result`, or with an accepted error and untouched
frames. -/
def Allows {α : Type} (policy : Policy) (origin : State) (effect : FrameStore → Prop)
    (action : Action α) (result : α → Prop) : Prop :=
  ∀ state, policy.Holds origin (· = origin.frames) state →
    action.Ensures state (fun value after => policy.Holds origin effect after ∧ result value)
      (fun error after => policy.Holds origin (· = origin.frames) after ∧ policy.accepts error)

/-- An action that leaves the frames untouched. -/
def Keeps {α : Type} (policy : Policy) (origin : State) (action : Action α)
    (result : α → Prop) : Prop :=
  policy.Allows origin (· = origin.frames) action result

/-! ## Sequences of actions -/

section Rules

variable {α β : Type} {policy : Policy} {origin : State} {effect : FrameStore → Prop}

/-- Only the last action of a sequence may touch the frames. -/
theorem Keeps.bind {action : Action β} {next : β → Action α} {middle : β → Prop}
    {result : α → Prop} (first : policy.Keeps origin action middle)
    (rest : ∀ value, middle value → policy.Allows origin effect (next value) result) :
    policy.Allows origin effect (action >>= next) result := by
  intro state holds
  rw [Action.ensures_bind]
  refine (first state holds).imp ?_ ?_
  · intro value after kept
    exact rest value kept.2 after kept.1
  · intro error after failed
    exact failed

/-- Control is passed after the frames were touched. -/
theorem Allows.pass {action : Action β} {result : β → Prop}
    (last : policy.Allows origin effect action result) (control : α) :
    policy.Allows origin effect (action >>= fun _ => pure control) (fun _ => True) := by
  intro state holds
  rw [Action.ensures_bind]
  refine (last state holds).imp ?_ ?_
  · intro value after reached
    exact ⟨reached.1, trivial⟩
  · intro error after failed
    exact failed

/-- A more general effect may be named. -/
theorem Allows.imp {effect' : FrameStore → Prop} {action : Action α} {result : α → Prop}
    (allows : policy.Allows origin effect action result)
    (weaker : ∀ frames, effect frames → effect' frames) :
    policy.Allows origin effect' action result := by
  intro state holds
  refine (allows state holds).imp ?_ ?_
  · intro value after reached
    exact ⟨⟨weaker _ reached.1.frames, reached.1.canFail, reached.1.operands⟩, reached.2⟩
  · intro error after failed
    exact failed

theorem keeps_get : policy.Keeps origin (get : Action State) (fun _ => True) :=
  fun _ kept => ⟨kept, trivial⟩

theorem keeps_pure {result : α → Prop} {value : α} (holds : result value) :
    policy.Keeps origin (pure value) result :=
  fun _ kept => ⟨kept, holds⟩

theorem keeps_throw {result : α → Prop} {error : Error} (accepted : policy.accepts error) :
    policy.Keeps origin (throw error : Action α) result :=
  fun _ kept => ⟨kept, accepted⟩

theorem keeps_require {result : Except Error α}
    (accepted : ∀ error, result = .error error → policy.accepts error) :
    policy.Keeps origin (Action.require result) (fun value => result = .ok value) := by
  intro state holds
  rw [Action.ensures_require]
  exact ⟨fun value ended => ⟨holds, ended⟩, fun error ended => ⟨holds, accepted error ended⟩⟩

/-! ## Stacks -/

theorem keeps_push {value : Value} (admitted : policy.admits value) :
    policy.Keeps origin (Action.push value) (fun _ => True) := by
  intro state holds
  rw [Action.ensures_push]
  refine ⟨⟨holds.frames, holds.canFail, ?_⟩, trivial⟩
  intro member found
  rcases List.mem_cons.mp found with equal | old
  · exact equal ▸ admitted
  · exact holds.operands member old

theorem keeps_pop : policy.Keeps origin Action.pop policy.admits := by
  intro state holds
  rw [Action.ensures_pop]
  constructor
  · intro value rest stack
    have admitted : ∀ member ∈ value :: rest, policy.admits member := stack ▸ holds.operands
    exact ⟨⟨holds.frames, holds.canFail, fun member found =>
      admitted member (List.mem_cons_of_mem value found)⟩, admitted value List.mem_cons_self⟩
  · intro _
    exact ⟨holds, policy.accepts_ordinary _ rfl⟩

theorem keeps_clear : policy.Keeps origin Action.clear (fun _ => True) := by
  intro state holds
  rw [Action.ensures_clear]
  exact ⟨⟨holds.frames, holds.canFail, fun _ found => absurd found List.not_mem_nil⟩, trivial⟩

theorem keeps_pushCall (position : Nat) :
    policy.Keeps origin (Action.pushCall position) (fun _ => True) := by
  intro state holds
  rw [Action.ensures_pushCall]
  exact ⟨⟨holds.frames, holds.canFail, holds.operands⟩, trivial⟩

theorem keeps_popCall : policy.Keeps origin Action.popCall (fun _ => True) := by
  intro state holds
  rw [Action.ensures_popCall]
  constructor
  · intro position rest _
    exact ⟨⟨holds.frames, holds.canFail, holds.operands⟩, trivial⟩
  · intro _
    exact ⟨holds, policy.accepts_ordinary _ rfl⟩

theorem keeps_binary (operation : BinaryOperation) :
    policy.Keeps origin (Action.binary operation) (fun _ => True) :=
  keeps_pop.bind fun right _ => keeps_pop.bind fun left _ =>
    have regular := operation.apply_isRegular left right
    (keeps_require fun _ failed => policy.accepts_computed (regular.error failed)).bind
      fun _ computed => keeps_push (policy.admits_initialized _ (regular.value computed))

theorem keeps_unary (operation : UnaryOperation) :
    policy.Keeps origin (Action.unary operation) (fun _ => True) :=
  keeps_pop.bind fun operand _ =>
    have regular := operation.apply_isRegular operand
    (keeps_require fun _ failed => policy.accepts_computed (regular.error failed)).bind
      fun _ computed => keeps_push (policy.admits_initialized _ (regular.value computed))

/-! ## Streams -/

variable {instruction : Instruction}

theorem keeps_write (governs : policy.Governs instruction origin) (text : String) :
    policy.Keeps origin (Action.write text) (fun _ => True) := by
  intro state holds
  rw [Action.ensures_write]
  constructor
  · intro output written
    refine ⟨⟨holds.frames, ?_, holds.operands⟩, trivial⟩
    rw [← holds.canFail]
    simp only [State.canFail, OutputStream.canFail_of_write written]
  · intro cause failed
    refine ⟨holds, governs.stream ?_ cause⟩
    rw [← holds.canFail]
    simp only [State.canFail, OutputStream.canFail_of_refusal failed, Bool.or_true, Bool.true_or]

theorem keeps_writeDiagnostic (governs : policy.Governs instruction origin) (text : String) :
    policy.Keeps origin (Action.writeDiagnostic text) (fun _ => True) := by
  intro state holds
  rw [Action.ensures_writeDiagnostic]
  constructor
  · intro diagnostics written
    refine ⟨⟨holds.frames, ?_, holds.operands⟩, trivial⟩
    rw [← holds.canFail]
    simp only [State.canFail, OutputStream.canFail_of_write written]
  · intro cause failed
    refine ⟨holds, governs.stream ?_ cause⟩
    rw [← holds.canFail]
    simp only [State.canFail, OutputStream.canFail_of_refusal failed, Bool.or_true]

theorem keeps_takeLine (governs : policy.Governs instruction origin) :
    policy.Keeps origin Action.takeLine (fun _ => True) := by
  intro state holds
  have sameStreams : ({ state with input := state.input.takeLine.2 } : State).canFail =
      origin.canFail := by
    rw [← holds.canFail]
    simp only [State.canFail, InputStream.canFail_takeLine]
  rw [Action.ensures_takeLine]
  constructor
  · intro line _
    exact ⟨⟨holds.frames, sameStreams, holds.operands⟩, trivial⟩
  · intro cause failed
    refine ⟨⟨holds.frames, sameStreams, holds.operands⟩, governs.stream ?_ cause⟩
    rw [← holds.canFail]
    simp only [State.canFail, InputStream.canFail_of_failure failed, Bool.true_or]

/-! ## Operands -/

theorem Governs.admits_valueAt (governs : policy.Governs instruction origin)
    {store : FrameStore} {slot : Nat} {value : Value}
    (denoted : instruction.valueAt store slot = .ok value) : policy.admits value := by
  unfold Instruction.valueAt at denoted
  cases found : instruction.symbolAt slot with
  | error error =>
      rw [found] at denoted
      cases denoted
  | ok symbol =>
      rw [found] at denoted
      cases symbol with
      | var v => exact policy.admits_initialized _ ((store.read_isRegular v).value denoted)
      | literal literal =>
          cases denoted
          exact governs.literal found

theorem Governs.accepts_valueAt (governs : policy.Governs instruction origin)
    {store : FrameStore} {slot : Nat}
    (declared : instruction.opcode.signature[slot]? = some .symb) {error : Error}
    (failed : instruction.valueAt store slot = .error error) : policy.accepts error := by
  unfold Instruction.valueAt at failed
  cases found : instruction.symbolAt slot with
  | error refused =>
      rw [found] at failed
      cases failed
      exact governs.accessor declared found
  | ok symbol =>
      rw [found] at failed
      cases symbol with
      | var v => exact policy.accepts_computed ((store.read_isRegular v).error failed)
      | literal literal => cases failed

theorem keeps_varAt (governs : policy.Governs instruction origin) {slot : Nat}
    (declared : instruction.opcode.signature[slot]? = some .var) :
    policy.Keeps origin (Action.require (instruction.varAt slot))
      (fun v => instruction.varAt slot = .ok v) :=
  keeps_require fun _ refused => governs.accessor declared refused

theorem keeps_symbolAt (governs : policy.Governs instruction origin) {slot : Nat}
    (declared : instruction.opcode.signature[slot]? = some .symb) :
    policy.Keeps origin (Action.require (instruction.symbolAt slot))
      (fun symbol => instruction.symbolAt slot = .ok symbol) :=
  keeps_require fun _ refused => governs.accessor declared refused

theorem keeps_labelAt (governs : policy.Governs instruction origin) {slot : Nat}
    (declared : instruction.opcode.signature[slot]? = some .label) :
    policy.Keeps origin (Action.require (instruction.labelAt slot))
      (fun name => instruction.labelAt slot = .ok name) :=
  keeps_require fun _ refused => governs.accessor declared refused

theorem keeps_typeAt (governs : policy.Governs instruction origin) {slot : Nat}
    (declared : instruction.opcode.signature[slot]? = some .type) :
    policy.Keeps origin (Action.require (instruction.typeAt slot))
      (fun name => instruction.typeAt slot = .ok name) :=
  keeps_require fun _ refused => governs.accessor declared refused

theorem keeps_symbolValue (governs : policy.Governs instruction origin) {slot : Nat}
    (declared : instruction.opcode.signature[slot]? = some .symb) :
    policy.Keeps origin (Action.symbolValue instruction slot) policy.admits := by
  intro state holds
  rw [Action.ensures_symbolValue]
  exact ⟨fun value denoted => ⟨holds, governs.admits_valueAt denoted⟩,
    fun error failed => ⟨holds, governs.accepts_valueAt declared failed⟩⟩

theorem keeps_pushSymbol (governs : policy.Governs instruction origin) {slot : Nat}
    (declared : instruction.opcode.signature[slot]? = some .symb) :
    policy.Keeps origin (Action.pushSymbol instruction slot) (fun _ => True) :=
  (keeps_symbolValue governs declared).bind fun _ admitted => keeps_push admitted

/-- A variable is read on its own account when it is both source and destination. -/
theorem keeps_valueOf_var (v : Variable) :
    policy.Keeps origin (Action.valueOf (.var v)) policy.admits := by
  intro state holds
  have regular := state.frames.read_isRegular v
  rw [Action.ensures_valueOf]
  exact ⟨fun value denoted => ⟨holds, policy.admits_initialized _ (regular.value denoted)⟩,
    fun error failed => ⟨holds, policy.accepts_computed (regular.error failed)⟩⟩

theorem keeps_peekAt (symbol : Symbol) :
    policy.Keeps origin (Action.peekAt symbol) (fun _ => True) := by
  intro state holds
  rw [Action.ensures_peekAt]
  refine ⟨fun value denoted => ⟨holds, trivial⟩, fun error failed => ⟨holds, ?_⟩⟩
  cases symbol with
  | var v => exact policy.accepts_computed (FrameStore.peek_error failed)
  | literal value => cases failed

theorem keeps_jumpIf (governs : policy.Governs instruction origin)
    (declared : instruction.opcode.signature[0]? = some .label) (program : Program)
    (equal : Bool) :
    policy.Keeps origin (Action.jumpIf program instruction equal) (fun _ => True) := by
  refine (keeps_labelAt governs declared).bind fun label _ => ?_
  cases program.labels.contains label with
  | false => exact keeps_throw (policy.accepts_ordinary _ rfl)
  | true =>
      refine keeps_pop.bind fun right _ => keeps_pop.bind fun left _ =>
        (keeps_require fun _ failed =>
          policy.accepts_computed (equals_error failed)).bind fun found _ => ?_
      cases found == equal with
      | false => exact keeps_pure trivial
      | true => exact keeps_pure trivial

/-! ## Frames -/

theorem allows_onFrames {change : FrameStore → FrameStore.Change}
    (atomic : FrameStore.IsAtomic change)
    (accepted : ∀ error after, change origin.frames = .error error after →
      error.isComputed = true) :
    policy.Allows origin (fun frames => change origin.frames = .ok () frames)
      (Action.onFrames change) (fun _ => True) := by
  intro state holds
  rw [Action.ensures_onFrames_of_isAtomic atomic, holds.frames]
  exact ⟨fun frames changed => ⟨⟨changed, holds.canFail, holds.operands⟩, trivial⟩,
    fun error failed => ⟨holds, policy.accepts_computed (accepted error _ failed)⟩⟩

/-- The assignment of an admitted value to the variable in the first slot. -/
def Assigns (policy : Policy) (instruction : Instruction) (before after : FrameStore) : Prop :=
  ∃ v value, instruction.varAt 0 = .ok v ∧ policy.admits value ∧
    before.assign v value = .ok () after

theorem allows_assign {v : Variable} (destination : instruction.varAt 0 = .ok v) {value : Value}
    (admitted : policy.admits value) :
    policy.Allows origin (policy.Assigns instruction origin.frames)
      (Action.onFrames fun frames => frames.assign v value) (fun _ => True) :=
  (allows_onFrames (FrameStore.isAtomic_assign v value) fun _ _ failed =>
    FrameStore.assign_error failed).imp
    fun _ assigned => ⟨v, value, destination, admitted, assigned⟩

theorem allows_assignAt (governs : policy.Governs instruction origin)
    (declared : instruction.opcode.signature[0]? = some .var) {value : Value}
    (admitted : policy.admits value) :
    policy.Allows origin (policy.Assigns instruction origin.frames)
      (Action.assignAt instruction 0 value) (fun _ => True) :=
  (keeps_varAt governs declared).bind fun _ destination => allows_assign destination admitted

end Rules
end Policy

/-! ## All roles -/

/-- What the successful execution of an instruction does to the frames: it moves a
frame, defines a variable, assigns an admitted value to the variable in its first slot,
or does nothing. -/
def Role.FrameEffect (policy : Policy) (instruction : Instruction) (before after : FrameStore) :
    Role → Prop
  | .createFrame => after = before.create
  | .pushFrame => before.push = .ok () after
  | .popFrame => before.pop = .ok () after
  | .define => ∃ v, instruction.varAt 0 = .ok v ∧ before.define v = .ok () after
  | .move | .pop | .binaryInto _ | .unaryInto _ | .read | .replaceChar | .kindOf =>
      policy.Assigns instruction before after
  | _ => after = before

namespace Policy

variable {policy : Policy} {instruction : Instruction} {origin : State}

/-- An execution has the effect of its role on the frames and handles only admitted
values, or it ends with an accepted error and untouched frames. -/
theorem Governs.allows_execute (governs : policy.Governs instruction origin) (site : Site)
    {role : Role} (played : instruction.opcode.role = role) :
    policy.Allows origin (fun frames => role.FrameEffect policy instruction origin.frames frames)
      (Action.execute site instruction role) (fun _ => True) := by
  have declared {slot : Nat} {kind : Slot} (here : role.signature[slot]? = some kind) :
      instruction.opcode.signature[slot]? = some kind := by
    rw [Opcode.signature, played]
    exact here
  cases role with
  | move =>
      exact (keeps_symbolValue governs (declared rfl)).bind fun _ admitted =>
        (allows_assignAt governs (declared rfl) admitted).pass _
  | createFrame =>
      refine ((allows_onFrames FrameStore.isAtomic_create ?_).imp ?_).pass _
      · intro error after failed
        cases failed
      · intro frames created
        cases created
        rfl
  | pushFrame =>
      exact (allows_onFrames FrameStore.isAtomic_push fun _ _ failed =>
        FrameStore.push_error failed).pass _
  | popFrame =>
      exact (allows_onFrames FrameStore.isAtomic_pop fun _ _ failed =>
        FrameStore.pop_error failed).pass _
  | define =>
      exact (keeps_varAt governs (declared rfl)).bind fun v destination =>
        ((allows_onFrames (FrameStore.isAtomic_define v) fun _ _ failed =>
          FrameStore.define_error failed).imp fun _ defined => ⟨v, destination, defined⟩).pass _
  | call =>
      exact (keeps_labelAt governs (declared rfl)).bind fun _ _ => (keeps_pushCall _).pass _
  | ret => exact keeps_popCall.bind fun _ _ => keeps_pure trivial
  | push => exact (keeps_pushSymbol governs (declared rfl)).pass _
  | pop =>
      exact keeps_pop.bind fun _ admitted =>
        (allows_assignAt governs (declared rfl) admitted).pass _
  | clear => exact keeps_clear.pass _
  | binaryInto operation =>
      exact (keeps_pushSymbol governs (declared rfl)).bind fun _ _ =>
        (keeps_pushSymbol governs (declared rfl)).bind fun _ _ =>
          (keeps_binary operation).bind fun _ _ => keeps_pop.bind fun _ admitted =>
            (allows_assignAt governs (declared rfl) admitted).pass _
  | unaryInto operation =>
      exact (keeps_pushSymbol governs (declared rfl)).bind fun _ _ =>
        (keeps_unary operation).bind fun _ _ => keeps_pop.bind fun _ admitted =>
          (allows_assignAt governs (declared rfl) admitted).pass _
  | binaryOnStack operation => exact (keeps_binary operation).pass _
  | unaryOnStack operation => exact (keeps_unary operation).pass _
  | read =>
      refine (keeps_typeAt governs (declared rfl)).bind fun type _ =>
        (keeps_takeLine governs).bind fun line _ => ?_
      have initialized := InputStream.valueOfLine_isInitialized type line
      exact (allows_assignAt governs (declared rfl)
        (policy.admits_initialized _ initialized)).pass _
  | write =>
      exact (keeps_symbolValue governs (declared rfl)).bind fun _ _ =>
        (keeps_write governs _).pass _
  | replaceChar =>
      refine (keeps_varAt governs (declared rfl)).bind fun v destination =>
        (keeps_valueOf_var v).bind fun target _ =>
          (keeps_symbolValue governs (declared rfl)).bind fun index _ =>
            (keeps_symbolValue governs (declared rfl)).bind fun source _ => ?_
      have regular := replaceChar_isRegular target index source
      refine (keeps_require fun _ failed => ?_).bind fun result computed => ?_
      · exact policy.accepts_computed (regular.error failed)
      · exact (allows_assign destination
          (policy.admits_initialized _ (regular.value computed))).pass _
  | kindOf =>
      exact (keeps_symbolAt governs (declared rfl)).bind fun symbol _ =>
        (keeps_peekAt symbol).bind fun _ _ =>
          (allows_assignAt governs (declared rfl) (policy.admits_initialized _ rfl)).pass _
  | label => exact keeps_pure trivial
  | jump => exact (keeps_labelAt governs (declared rfl)).bind fun _ _ => keeps_pure trivial
  | jumpIf equal =>
      exact (keeps_pushSymbol governs (declared rfl)).bind fun _ _ =>
        (keeps_pushSymbol governs (declared rfl)).bind fun _ _ =>
          keeps_jumpIf governs (declared rfl) _ _
  | jumpIfOnStack equal => exact keeps_jumpIf governs (declared rfl) _ _
  | exit =>
      exact (keeps_symbolValue governs (declared rfl)).bind fun _ _ =>
        (keeps_require fun _ failed => policy.accepts_computed (exitCodeOf_error failed)).bind
          fun _ _ => keeps_pure trivial
  | debugPrint =>
      refine (keeps_symbolValue governs (declared rfl)).bind fun value _ => ?_
      cases site.debugOutput with
      | false => exact keeps_pure trivial
      | true => exact (keeps_writeDiagnostic governs _).pass _
  | debugBreak =>
      unfold Action.execute
      cases site.debugOutput with
      | false => exact keeps_pure trivial
      | true => exact keeps_get.bind fun _ _ => (keeps_writeDiagnostic governs _).pass _

end Policy
end FrameMachine
