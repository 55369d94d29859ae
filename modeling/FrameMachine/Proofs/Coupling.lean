import FrameMachine.Proofs.Effect
import FrameMachine.Proofs.Step

namespace FrameMachine

/-!
# Two executions side by side

Some statements about programs compare two runs, of which one starts with something else in
a part of the state or is observed in another way.  A `Coupling` relates the states of the
two runs, and says that operations which do not look at that part keep the relation.  Two
actions agree if they end in the same way from related states and leave related states.
Agreement passes through sequencing, so one walk through the roles shows for every coupling
that executing an instruction on one side agrees with executing it on the other.

The walk leaves out the roles that empty the operand stack or write diagnostics.  What these
do depends on more of the state than a coupling speaks about, and each coupling has to
answer for them.

`Machine.Follows` extends a coupling from states to machines, whose programs may number
their instructions differently.  What is shown for a step holds for a run.
-/

/-- A relation of states that is kept by what instructions do. -/
structure Coupling where
  related : State → State → Prop
  /-- The errors of the first execution after which nothing is asked of the second. -/
  excused : Error → Prop
  frames {left right : State} : related left right → right.frames = left.frames
  calls {left right : State} : related left right → right.calls = left.calls
  input {left right : State} : related left right → right.input = left.input
  output {left right : State} : related left right → right.output = left.output
  setFrames {left right : State} (frames : FrameStore) : related left right →
    related { left with frames := frames } { right with frames := frames }
  setCalls {left right : State} (calls : List Nat) : related left right →
    related { left with calls := calls } { right with calls := calls }
  setInput {left right : State} (input : InputStream) : related left right →
    related { left with input := input } { right with input := input }
  setOutput {left right : State} (output : OutputStream) : related left right →
    related { left with output := output } { right with output := output }
  push {left right : State} (value : Value) : related left right →
    related { left with operands := value :: left.operands }
      { right with operands := value :: right.operands }
  pop {left right : State} {value : Value} {rest : List Value} : related left right →
    left.operands = value :: rest → ∃ rest', right.operands = value :: rest' ∧
      related { left with operands := rest } { right with operands := rest' }
  empty {left right : State} : related left right → left.operands = [] →
    excused .emptyOperandStack ∨ right.operands = []

namespace Coupling

variable {α β : Type}

/-- From related states, both actions end with the same result or with the same error, and
leave related states, unless the first one ends with an error that is excused. -/
def Agrees (coupling : Coupling) (first second : Action α) : Prop :=
  ∀ left right, coupling.related left right →
    first.Ensures left
      (fun value after => second.Ensures right
        (fun value' after' => value' = value ∧ coupling.related after after') (fun _ _ => False))
      (fun error after => coupling.excused error ∨ second.Ensures right (fun _ _ => False)
        (fun error' after' => error' = error ∧ coupling.related after after'))

section Sequencing

variable {coupling : Coupling}

theorem Agrees.bind {first second : Action β} {next next' : β → Action α}
    (agrees : coupling.Agrees first second)
    (continues : ∀ value, coupling.Agrees (next value) (next' value)) :
    coupling.Agrees (first >>= next) (second >>= next') := by
  intro left right alike
  rw [Action.ensures_bind]
  refine (agrees left right alike).imp ?_ ?_
  · intro value after reached
    unfold Action.Ensures at reached
    cases ending : second.run right with
    | error error after' =>
        rw [ending] at reached
        exact reached.elim
    | ok value' after' =>
        rw [ending] at reached
        rcases reached with ⟨rfl, stillAlike⟩
        refine (continues value' after after' stillAlike).imp ?_ ?_
        · intro result last inner
          rw [Action.ensures_bind, Action.Ensures, ending]
          exact inner
        · intro error last inner
          rw [Action.ensures_bind, Action.Ensures, ending]
          exact inner
  · intro error after reached
    rw [Action.ensures_bind]
    refine reached.imp_right fun failed => ?_
    exact failed.imp (fun _ _ impossible => impossible.elim) (fun _ _ same => same)

theorem agrees_pure (value : α) : coupling.Agrees (pure value) (pure value) :=
  fun _ _ alike => ⟨rfl, alike⟩

theorem agrees_throw (error : Error) : coupling.Agrees (throw error : Action α) (throw error) :=
  fun _ _ alike => Or.inr ⟨rfl, alike⟩

theorem agrees_require (result : Except Error α) :
    coupling.Agrees (Action.require result) (Action.require result) := by
  cases result with
  | ok value => exact agrees_pure value
  | error error => exact agrees_throw error

/-- An action that ends well may be followed by passing control to the next instruction. -/
theorem Agrees.next {first second : Action Unit} (agrees : coupling.Agrees first second) :
    coupling.Agrees (first >>= fun _ => pure Transfer.next)
      (second >>= fun _ => pure Transfer.next) :=
  agrees.bind fun _ => agrees_pure Transfer.next

end Sequencing

/-! ## One rule for each operation -/

variable (coupling : Coupling)

theorem agrees_onFrames (change : FrameStore → FrameStore.Change) :
    coupling.Agrees (Action.onFrames change) (Action.onFrames change) := by
  intro left right alike
  simp only [Action.ensures_onFrames, coupling.frames alike]
  cases change left.frames with
  | ok done frames => simp [coupling.setFrames frames alike]
  | error error frames => simp [coupling.setFrames frames alike]

theorem agrees_push (value : Value) :
    coupling.Agrees (Action.push value) (Action.push value) :=
  fun _ _ alike => ⟨rfl, coupling.push value alike⟩

theorem agrees_pop : coupling.Agrees Action.pop Action.pop := by
  intro left right alike
  simp only [Action.ensures_pop]
  constructor
  · intro value rest stack
    rcases coupling.pop alike stack with ⟨rest', stack', stillAlike⟩
    simp [stack', stillAlike]
  · intro stack
    refine (coupling.empty alike stack).imp_right fun stack' => ?_
    simp [stack', alike]

theorem agrees_pushCall (position : Nat) :
    coupling.Agrees (Action.pushCall position) (Action.pushCall position) := by
  intro left right alike
  have pushed := coupling.setCalls (position :: left.calls) alike
  simp only [Action.ensures_pushCall, coupling.calls alike]
  exact ⟨trivial, pushed⟩

theorem agrees_popCall : coupling.Agrees Action.popCall Action.popCall := by
  intro left right alike
  simp only [Action.ensures_popCall, coupling.calls alike]
  cases left.calls with
  | nil => simp [alike]
  | cons position rest => simp [coupling.setCalls rest alike]

theorem agrees_valueOf (symbol : Symbol) :
    coupling.Agrees (Action.valueOf symbol) (Action.valueOf symbol) := by
  intro left right alike
  simp only [Action.ensures_valueOf, coupling.frames alike]
  cases left.frames.evaluate symbol <;> simp [alike]

theorem agrees_peekAt (symbol : Symbol) :
    coupling.Agrees (Action.peekAt symbol) (Action.peekAt symbol) := by
  intro left right alike
  simp only [Action.ensures_peekAt, coupling.frames alike]
  cases left.frames.inspect symbol <;> simp [alike]

theorem agrees_write (text : String) :
    coupling.Agrees (Action.write text) (Action.write text) := by
  intro left right alike
  simp only [Action.ensures_write, coupling.output alike]
  cases left.output.write text with
  | ok output => simp [coupling.setOutput output alike]
  | error cause => simp [alike]

theorem agrees_takeLine : coupling.Agrees Action.takeLine Action.takeLine := by
  intro left right alike
  have taken := coupling.setInput left.input.takeLine.2 alike
  simp only [Action.ensures_takeLine, coupling.input alike]
  cases left.input.takeLine.1 <;> simp [taken]

/-! ## Composed operations -/

theorem agrees_symbolValue (instruction : Instruction) (slot : Nat) :
    coupling.Agrees (Action.symbolValue instruction slot)
      (Action.symbolValue instruction slot) :=
  (agrees_require (instruction.symbolAt slot)).bind coupling.agrees_valueOf

theorem agrees_assignAt (instruction : Instruction) (slot : Nat) (value : Value) :
    coupling.Agrees (Action.assignAt instruction slot value)
      (Action.assignAt instruction slot value) :=
  (agrees_require (instruction.varAt slot)).bind fun v =>
    coupling.agrees_onFrames fun frames => frames.assign v value

theorem agrees_pushSymbol (instruction : Instruction) (slot : Nat) :
    coupling.Agrees (Action.pushSymbol instruction slot) (Action.pushSymbol instruction slot) :=
  (coupling.agrees_symbolValue instruction slot).bind coupling.agrees_push

theorem agrees_binary (operation : BinaryOperation) :
    coupling.Agrees (Action.binary operation) (Action.binary operation) :=
  coupling.agrees_pop.bind fun right => coupling.agrees_pop.bind fun left =>
    (agrees_require (operation.apply left right)).bind coupling.agrees_push

theorem agrees_unary (operation : UnaryOperation) :
    coupling.Agrees (Action.unary operation) (Action.unary operation) :=
  coupling.agrees_pop.bind fun operand =>
    (agrees_require (operation.apply operand)).bind coupling.agrees_push

theorem agrees_jumpIf {program program' : Program} (labels : program'.labels = program.labels)
    (instruction : Instruction) (equal : Bool) :
    coupling.Agrees (Action.jumpIf program instruction equal)
      (Action.jumpIf program' instruction equal) := by
  refine (agrees_require (instruction.labelAt 0)).bind fun label => ?_
  rw [labels]
  split
  · refine coupling.agrees_pop.bind fun right => coupling.agrees_pop.bind fun left => ?_
    refine (agrees_require (equals left right)).bind fun found => ?_
    split <;> exact agrees_pure _
  · exact agrees_throw _

end Coupling

/-! ## One instruction -/

/-- The role uses no more of the operand stack than the values on top, and writes no
diagnostics. -/
def Role.isLocal : Role → Bool
  | .clear | .debugPrint | .debugBreak => false
  | _ => true

namespace Coupling

variable (coupling : Coupling)

/-- Executions in local roles agree under every coupling. -/
theorem agrees_execute {site site' : Site} (labels : site'.program.labels = site.program.labels)
    (position : site'.position = site.position) (instruction : Instruction) {role : Role}
    (isLocal : role.isLocal = true) :
    coupling.Agrees (Action.execute site instruction role)
      (Action.execute site' instruction role) := by
  have assignsAt (slot : Nat) (value : Value) :
      coupling.Agrees (do Action.assignAt instruction slot value; pure Transfer.next)
        (do Action.assignAt instruction slot value; pure Transfer.next) :=
    (coupling.agrees_assignAt instruction slot value).next
  cases role with
  | move => exact (coupling.agrees_symbolValue instruction 1).bind (assignsAt 0)
  | createFrame => exact (coupling.agrees_onFrames _).next
  | pushFrame => exact (coupling.agrees_onFrames _).next
  | popFrame => exact (coupling.agrees_onFrames _).next
  | define =>
      exact (agrees_require _).bind fun v => (coupling.agrees_onFrames _).next
  | call =>
      refine (agrees_require _).bind fun label => ?_
      rw [position]
      exact (coupling.agrees_pushCall _).bind fun _ => agrees_pure _
  | ret => exact coupling.agrees_popCall.bind fun target => agrees_pure _
  | push => exact (coupling.agrees_pushSymbol instruction 0).next
  | pop => exact coupling.agrees_pop.bind (assignsAt 0)
  | clear => cases isLocal
  | binaryInto operation =>
      refine (coupling.agrees_pushSymbol instruction 1).bind fun _ => ?_
      refine (coupling.agrees_pushSymbol instruction 2).bind fun _ => ?_
      exact (coupling.agrees_binary operation).bind fun _ =>
        coupling.agrees_pop.bind (assignsAt 0)
  | unaryInto operation =>
      refine (coupling.agrees_pushSymbol instruction 1).bind fun _ => ?_
      exact (coupling.agrees_unary operation).bind fun _ =>
        coupling.agrees_pop.bind (assignsAt 0)
  | binaryOnStack operation => exact (coupling.agrees_binary operation).next
  | unaryOnStack operation => exact (coupling.agrees_unary operation).next
  | read =>
      refine (agrees_require _).bind fun type => ?_
      exact coupling.agrees_takeLine.bind fun line => assignsAt 0 _
  | write =>
      exact (coupling.agrees_symbolValue instruction 0).bind fun value =>
        (coupling.agrees_write value.output).next
  | replaceChar =>
      refine (agrees_require _).bind fun v => ?_
      refine (coupling.agrees_valueOf (.var v)).bind fun target => ?_
      refine (coupling.agrees_symbolValue instruction 1).bind fun index => ?_
      refine (coupling.agrees_symbolValue instruction 2).bind fun source => ?_
      exact (agrees_require _).bind fun result => (coupling.agrees_onFrames _).next
  | kindOf =>
      refine (agrees_require _).bind fun symbol => ?_
      exact (coupling.agrees_peekAt symbol).bind fun value => assignsAt 0 _
  | label => exact agrees_pure _
  | jump => exact (agrees_require _).bind fun label => agrees_pure _
  | jumpIf equal =>
      refine (coupling.agrees_pushSymbol instruction 1).bind fun _ => ?_
      refine (coupling.agrees_pushSymbol instruction 2).bind fun _ => ?_
      exact coupling.agrees_jumpIf labels instruction equal
  | jumpIfOnStack equal => exact coupling.agrees_jumpIf labels instruction equal
  | exit =>
      refine (coupling.agrees_symbolValue instruction 0).bind fun value => ?_
      exact (agrees_require _).bind fun code => agrees_pure _
  | debugPrint => cases isLocal
  | debugBreak => cases isLocal

end Coupling

/-! ## Different diagnostics -/

namespace Coupling

/-- States that are the same but for their diagnostics, and diagnostics that are alike. -/
def exceptDiagnostics (alike : OutputStream → OutputStream → Prop) : Coupling where
  related left right := ∃ diagnostics, right = { left with diagnostics := diagnostics } ∧
    alike left.diagnostics diagnostics
  excused _ := False
  frames := by
    rintro left _ ⟨diagnostics, rfl, _⟩
    rfl
  calls := by
    rintro left _ ⟨diagnostics, rfl, _⟩
    rfl
  input := by
    rintro left _ ⟨diagnostics, rfl, _⟩
    rfl
  output := by
    rintro left _ ⟨diagnostics, rfl, _⟩
    rfl
  setFrames := by
    rintro left _ frames ⟨diagnostics, rfl, same⟩
    exact ⟨diagnostics, rfl, same⟩
  setCalls := by
    rintro left _ calls ⟨diagnostics, rfl, same⟩
    exact ⟨diagnostics, rfl, same⟩
  setInput := by
    rintro left _ input ⟨diagnostics, rfl, same⟩
    exact ⟨diagnostics, rfl, same⟩
  setOutput := by
    rintro left _ output ⟨diagnostics, rfl, same⟩
    exact ⟨diagnostics, rfl, same⟩
  push := by
    rintro left _ value ⟨diagnostics, rfl, same⟩
    exact ⟨diagnostics, rfl, same⟩
  pop := by
    rintro left _ value rest ⟨diagnostics, rfl, same⟩ stack
    exact ⟨rest, stack, diagnostics, rfl, same⟩
  empty := by
    rintro left _ ⟨diagnostics, rfl, same⟩ stack
    exact Or.inr stack

/-- Writing one text to a stream and another to one that is alike ends in the same way, with
streams that are alike. -/
def WritesAlike (alike : OutputStream → OutputStream → Prop) (text text' : String) : Prop :=
  ∀ left right, alike left right →
    (∀ after, left.write text = .ok after →
      ∃ after', right.write text' = .ok after' ∧ alike after after') ∧
    ∀ cause, left.write text = .error cause → right.write text' = .error cause

theorem writesAlike_eq (text : String) : WritesAlike Eq text text := by
  rintro left _ rfl
  exact ⟨fun after written => ⟨after, written, rfl⟩, fun _ failed => failed⟩

/-- Neither of the streams can fail. -/
def Unfailing (left right : OutputStream) : Prop :=
  left.canFail = false ∧ right.canFail = false

/-- What is written to streams that cannot fail makes no difference. -/
theorem writesAlike_unfailing (text text' : String) : WritesAlike Unfailing text text' := by
  rintro left right ⟨leftUnfailing, rightUnfailing⟩
  constructor
  · intro after written
    cases alsoWritten : right.write text' with
    | ok after' =>
        refine ⟨after', rfl, ?_, ?_⟩
        · rw [OutputStream.canFail_of_write written, leftUnfailing]
        · rw [OutputStream.canFail_of_write alsoWritten, rightUnfailing]
    | error cause =>
        rw [OutputStream.canFail_of_refusal alsoWritten] at rightUnfailing
        cases rightUnfailing
  · intro cause failed
    rw [OutputStream.canFail_of_refusal failed] at leftUnfailing
    cases leftUnfailing

variable {alike : OutputStream → OutputStream → Prop}

theorem agrees_writeDiagnostic {text text' : String} (writes : WritesAlike alike text text') :
    (exceptDiagnostics alike).Agrees (Action.writeDiagnostic text)
      (Action.writeDiagnostic text') := by
  rintro left _ ⟨diagnostics, rfl, same⟩
  rcases writes _ _ same with ⟨well, badly⟩
  simp only [Action.ensures_writeDiagnostic]
  constructor
  · intro after written
    rcases well after written with ⟨after', alsoWritten, stillAlike⟩
    simp only [alsoWritten, Except.ok.injEq, forall_eq', reduceCtorEq, false_implies,
      implies_true, and_true, true_and]
    exact ⟨after', rfl, stillAlike⟩
  · intro cause failed
    right
    simp only [badly cause failed, Except.error.injEq, forall_eq', reduceCtorEq, false_implies,
      implies_true, true_and]
    exact ⟨diagnostics, rfl, same⟩

/-- The same for texts that depend on the whole state. -/
theorem agrees_get_writeDiagnostic {text text' : State → String}
    (writes : ∀ left right, WritesAlike alike (text left) (text' right)) :
    (exceptDiagnostics alike).Agrees
      (get >>= fun state => Action.writeDiagnostic (text state))
      (get >>= fun state => Action.writeDiagnostic (text' state)) :=
  fun left right same => agrees_writeDiagnostic (writes left right) left right same

/-- The remaining roles agree about everything but the diagnostics, if printing keeps the
diagnostics alike and, where a dump is printed, so do dumps. -/
theorem agrees_execute_elsewhere {site site' : Site}
    (option : site'.debugOutput = site.debugOutput) (instruction : Instruction) {role : Role}
    (elsewhere : role.isLocal = false) (prints : ∀ text, WritesAlike alike text text)
    (dumps : role = .debugBreak → site.debugOutput = true →
      ∀ text text', WritesAlike alike text text') :
    (exceptDiagnostics alike).Agrees (Action.execute site instruction role)
      (Action.execute site' instruction role) := by
  cases role with
  | clear =>
      refine Agrees.next ?_
      rintro left _ ⟨diagnostics, rfl, same⟩
      exact ⟨rfl, diagnostics, rfl, same⟩
  | debugPrint =>
      refine ((exceptDiagnostics alike).agrees_symbolValue instruction 0).bind fun value => ?_
      rw [option]
      cases site.debugOutput with
      | false => exact agrees_pure _
      | true => exact (agrees_writeDiagnostic (prints value.output)).next
  | debugBreak =>
      unfold Action.execute
      rw [option]
      cases wanted : site.debugOutput with
      | false => exact agrees_pure _
      | true => exact (agrees_get_writeDiagnostic fun _ _ => dumps rfl wanted _ _).next
  | _ => cases elsewhere

end Coupling

/-! ## Renumbered programs -/

/-- The instruction with another order number. -/
def Instruction.renumber (rename : Nat → Nat) (instruction : Instruction) : Instruction :=
  { instruction with order := rename instruction.order }

/-- The program with other order numbers. -/
def Program.renumber (rename : Nat → Nat) (program : Program) : Program :=
  { program with instructions := program.instructions.map (Instruction.renumber rename) }

/-- The status of a machine whose program has other order numbers. -/
def Status.renumber (rename : Nat → Nat) : Status → Status
  | .faulted fault =>
      .faulted ⟨{ fault.location with order := rename fault.location.order }, fault.error⟩
  | .running position => .running position
  | .halted code => .halted code

theorem Program.at?_renumber (rename : Nat → Nat) (program : Program) (position : Nat) :
    (program.renumber rename).at? position =
      (program.at? position).map (Instruction.renumber rename) :=
  List.getElem?_map

/-- No instruction looks at its own order number. -/
theorem Action.execute_renumber (rename : Nat → Nat) (site : Site) (instruction : Instruction)
    (role : Role) : execute site (instruction.renumber rename) role =
      execute site instruction role := by
  cases role <;> rfl

namespace Machine

theorem continueAt_renumber (rename : Nat → Nat) (program : Program) (position : Nat) :
    continueAt (program.renumber rename) position = continueAt program position := by
  rw [continueAt, continueAt, Program.size, Program.renumber, List.length_map, Program.size]

theorem transfer_renumber (rename : Nat → Nat) (program : Program) (position : Nat)
    (control : Transfer) :
    transfer (program.renumber rename) position control = transfer program position control := by
  cases control with
  | next => rw [transfer, transfer, continueAt_renumber]
  | toLabel name =>
      rw [transfer, transfer]
      simp only [continueAt_renumber]
      rfl
  | toPosition target => rw [transfer, transfer, continueAt_renumber]
  | halt code => rfl

/-- An instruction that ends well leaves no order number in the status. -/
theorem renumber_of_perform {site : Site} {instruction : Instruction} {state after : State}
    {status : Status} (performed : (perform site instruction).run state = .ok status after)
    (rename : Nat → Nat) : status.renumber rename = status := by
  have ensured : Action.Ensures (perform site instruction) state
      (fun status _ => status.renumber rename = status) (fun _ _ => True) := by
    rw [ensures_perform]
    unfold Action.Ensures
    split
    · refine ⟨fun status passed => ?_, fun _ _ => trivial⟩
      cases status with
      | running position => rfl
      | halted code => rfl
      | faulted fault => exact absurd rfl (transfer_ne_faulted passed fault)
    · trivial
  rw [Action.Ensures, performed] at ensured
  exact ensured

/-! ## Two runs -/

/-- The second machine is where the first one is, up to order numbers and to what the
coupling leaves open. -/
structure Follows (coupling : Coupling) (rename : Nat → Nat) (first second : Machine) :
    Prop where
  program : second.program = first.program.renumber rename
  state : coupling.related first.state second.state
  status : second.status = first.status.renumber rename
  executed : second.executed = first.executed

/-- The first machine has stopped with an error that is excused. -/
def IsExcused (coupling : Coupling) (machine : Machine) : Prop :=
  ∃ fault, machine.status = .faulted fault ∧ coupling.excused fault.error

/-- If the first machine is about to execute an instruction in a role that is not local,
both machines agree about it. -/
def AgreesElsewhere (coupling : Coupling) (first second : Machine) : Prop :=
  ∀ position instruction, first.status = .running position →
    first.program.at? position = some instruction →
    instruction.opcode.role.isLocal = false →
    coupling.Agrees
      (Action.execute (first.siteAt position) instruction instruction.opcode.role)
      (Action.execute (second.siteAt position) instruction instruction.opcode.role)

variable {coupling : Coupling} {rename : Nat → Nat} {first second : Machine}

/-- Performing an instruction agrees with performing the renumbered one. -/
theorem Follows.agrees_perform (follows : Follows coupling rename first second)
    (elsewhere : AgreesElsewhere coupling first second) {position : Nat}
    {instruction : Instruction} (running : first.status = .running position)
    (fetched : first.program.at? position = some instruction) :
    coupling.Agrees (perform (first.siteAt position) instruction)
      (perform (second.siteAt position) (instruction.renumber rename)) := by
  have executes : coupling.Agrees
      (Action.execute (first.siteAt position) instruction instruction.opcode.role)
      (Action.execute (second.siteAt position) instruction instruction.opcode.role) := by
    cases isLocal : instruction.opcode.role.isLocal with
    | false => exact elsewhere position instruction running fetched isLocal
    | true =>
        refine coupling.agrees_execute ?_ ?_ instruction isLocal
        · change second.program.labels = first.program.labels
          rw [follows.program]
          rfl
        · rfl
  unfold perform
  rw [Action.execute_renumber]
  refine executes.bind fun control => ?_
  change coupling.Agrees (Action.require (transfer first.program position control))
    (Action.require (transfer second.program position control))
  rw [follows.program, transfer_renumber]
  exact Coupling.agrees_require _

/-- Executing the instruction at a position keeps the machines together. -/
theorem Follows.executeAt (follows : Follows coupling rename first second)
    (elsewhere : AgreesElsewhere coupling first second) {position : Nat}
    {instruction : Instruction} (running : first.status = .running position)
    (fetched : first.program.at? position = some instruction) :
    IsExcused coupling (first.executeAt position instruction) ∨
      Follows coupling rename (first.executeAt position instruction)
        (second.executeAt position (instruction.renumber rename)) := by
  have counted : second.executed + 1 = first.executed + 1 := congrArg (· + 1) follows.executed
  have agreed := follows.agrees_perform elsewhere running fetched _ _ follows.state
  unfold Action.Ensures at agreed
  cases ending : (perform (first.siteAt position) instruction).run first.state with
  | ok status after =>
      cases alsoEnding : (perform (second.siteAt position) (instruction.renumber rename)).run
          second.state with
      | ok status' after' =>
          simp only [ending, alsoEnding] at agreed
          rcases agreed with ⟨rfl, alike⟩
          rw [executeAt_of_ok ending, executeAt_of_ok alsoEnding]
          exact Or.inr ⟨follows.program, alike, (renumber_of_perform ending rename).symm, counted⟩
      | error error after' => simp only [ending, alsoEnding] at agreed
  | error error after =>
      rw [executeAt_of_error ending]
      simp only [ending] at agreed
      rcases agreed with excused | agreed
      · exact Or.inl ⟨_, rfl, excused⟩
      · cases alsoEnding : (perform (second.siteAt position) (instruction.renumber rename)).run
            second.state with
        | ok status' after' => simp only [alsoEnding] at agreed
        | error error' after' =>
            simp only [alsoEnding] at agreed
            rcases agreed with ⟨rfl, alike⟩
            rw [executeAt_of_error alsoEnding]
            exact Or.inr ⟨follows.program, alike, rfl, counted⟩

/-- A step keeps the machines together. -/
theorem Follows.step (follows : Follows coupling rename first second)
    (elsewhere : AgreesElsewhere coupling first second) :
    IsExcused coupling first.step ∨ Follows coupling rename first.step second.step := by
  have status := follows.status
  cases atFirst : first.status with
  | running position =>
      rw [atFirst] at status
      have sameFetch := first.program.at?_renumber rename position
      rw [← follows.program] at sameFetch
      cases fetched : first.program.at? position with
      | none =>
          rw [fetched] at sameFetch
          right
          rw [Machine.step, Machine.step, atFirst, status]
          simp only [Status.renumber, fetched, sameFetch, Option.map_none]
          exact ⟨follows.program, follows.state, rfl, follows.executed⟩
      | some instruction =>
          rw [fetched] at sameFetch
          rw [step_of_running atFirst fetched, step_of_running status sameFetch]
          exact follows.executeAt elsewhere atFirst fetched
  | halted code =>
      rw [atFirst] at status
      rw [step_of_not_running (congrArg Status.isRunning atFirst),
        step_of_not_running (congrArg Status.isRunning status)]
      exact Or.inr follows
  | faulted fault =>
      rw [atFirst] at status
      rw [step_of_not_running (congrArg Status.isRunning atFirst),
        step_of_not_running (congrArg Status.isRunning status)]
      exact Or.inr follows

/-- Any number of steps keeps the machines together. -/
theorem Follows.iterate (follows : Follows coupling rename first second) {count : Nat}
    (elsewhere : ∀ index < count,
      Follows coupling rename (Machine.step^[index] first) (Machine.step^[index] second) →
      AgreesElsewhere coupling (Machine.step^[index] first) (Machine.step^[index] second)) :
    IsExcused coupling (Machine.step^[count] first) ∨
      Follows coupling rename (Machine.step^[count] first) (Machine.step^[count] second) := by
  induction count with
  | zero => exact Or.inr follows
  | succ count inductionHypothesis =>
      rw [Function.iterate_succ_apply', Function.iterate_succ_apply']
      rcases inductionHypothesis fun index within => elsewhere index (Nat.lt_succ_of_lt within)
        with excused | together
      · rcases excused with ⟨fault, faulted, forgiven⟩
        rw [step_of_not_running (congrArg Status.isRunning faulted)]
        exact Or.inl ⟨fault, faulted, forgiven⟩
      · exact together.step (elsewhere count (Nat.lt_succ_self count) together)

/-- Where nothing is excused, the machines stay together for good. -/
theorem Follows.iterate_together (follows : Follows coupling rename first second)
    (never : ∀ error, ¬coupling.excused error) {count : Nat}
    (elsewhere : ∀ index < count,
      AgreesElsewhere coupling (Machine.step^[index] first) (Machine.step^[index] second)) :
    Follows coupling rename (Machine.step^[count] first) (Machine.step^[count] second) := by
  rcases follows.iterate fun index within _ => elsewhere index within with excused | together
  · rcases excused with ⟨fault, -, forgiven⟩
    exact absurd forgiven (never fault.error)
  · exact together

end Machine
end FrameMachine
