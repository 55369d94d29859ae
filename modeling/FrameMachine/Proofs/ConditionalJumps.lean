import FrameMachine.Proofs.Jumps
import FrameMachine.Proofs.KindDiscipline
import FrameMachine.Proofs.StackForm

namespace FrameMachine

/-!
# Opposite jumps

A conditional jump makes a comparison and then passes control.  The comparison is an action of
its own, `Action.compareTopmost`, and it does not know which of its two answers the jump is
waiting for.  A jump on equality and the opposite one therefore fail alike, and they leave the
same state behind.  Where the comparison has an answer, one of them is taken and the other is
not.

The two jumps are compared in programs that differ in this one instruction.  Neither of the two is
a label, so the tables of both programs are the same.
-/

/-! ## Programs that differ in one instruction -/

section Replacing

variable {first second : Instruction}

/-- An instruction that is not a label leaves no trace in the table. -/
theorem LabelTable.collect_replace (other : first.opcode ≠ .label)
    (alsoOther : second.opcode ≠ .label) (table : LabelTable) (position : Nat)
    (before behind : List Instruction) :
    collect table position (before ++ second :: behind) =
      collect table position (before ++ first :: behind) := by
  induction before generalizing table position with
  | nil =>
      rw [List.nil_append, List.nil_append, collect, collect, if_neg other, if_neg alsoOther]
  | cons earlier before inductionHypothesis =>
      simp only [List.cons_append, collect, inductionHypothesis]

/-- The program with another instruction in the place of one has the same labels. -/
theorem Program.ofInstructions_replace {before behind : List Instruction} {program : Program}
    (other : first.opcode ≠ .label) (alsoOther : second.opcode ≠ .label)
    (built : ofInstructions (before ++ first :: behind) = .ok program) :
    ofInstructions (before ++ second :: behind) =
      .ok ⟨before ++ second :: behind, program.labels⟩ := by
  have collected := collect_of_ofInstructions built
  rw [instructions_of_ofInstructions built,
    ← LabelTable.collect_replace other alsoOther] at collected
  rw [ofInstructions, collected]

end Replacing

/-- The table lacks a name exactly if the label stands nowhere. -/
theorem Program.contains_eq_false_iff_labelAt {instructions : List Instruction} {program : Program}
    (built : ofInstructions instructions = .ok program) (name : String) :
    program.labels.contains name = false ↔ ∀ target, ¬program.LabelAt name target := by
  rw [← Bool.not_eq_true, LabelTable.contains_iff_exists_resolve, not_exists]
  simp only [resolve_eq_ok_iff_labelAt built]

/-! ## The comparison of a jump -/

namespace Action

/-- Ask for a label, and compare the two topmost values. -/
def compareTopmost (labels : LabelTable) (label : String) : Action Bool := do
  if labels.contains label then
    let right ← pop
    let left ← pop
    require (equals left right)
  else throw (.undefinedLabel label)

/-- Pass control to a label if a comparison has the wanted answer. -/
def jumpOn (comparison : Action Bool) (label : String) (equal : Bool) : Action Transfer := do
  let found ← comparison
  pure (if found = equal then .toLabel label else .next)

theorem ensures_compareTopmost (labels : LabelTable) (label : String) {state : State}
    {success : Bool → State → Prop} {failure : Error → State → Prop} :
    Ensures (compareTopmost labels label) state success failure ↔
      (labels.contains label = true →
        (∀ right left rest, state.operands = right :: left :: rest →
          (∀ found, equals left right = .ok found →
            success found { state with operands := rest }) ∧
          (∀ error, equals left right = .error error →
            failure error { state with operands := rest })) ∧
        (∀ only, state.operands = [only] →
          failure .emptyOperandStack { state with operands := [] }) ∧
        (state.operands = [] → failure .emptyOperandStack state)) ∧
      (labels.contains label = false → failure (.undefinedLabel label) state) := by
  unfold compareTopmost
  cases labels.contains label with
  | false => simp [ensures_throw]
  | true =>
      simp only [if_true, ensures_bind, ensures_require, true_implies, reduceCtorEq,
        false_implies, and_true]
      exact ensures_pop_pop

/-- There is no comparison without the label. -/
theorem ensures_compareTopmost_contains (labels : LabelTable) (label : String) (state : State) :
    Ensures (compareTopmost labels label) state
      (fun _ _ => labels.contains label = true) (fun _ _ => True) := by
  rw [ensures_compareTopmost]
  simp only [implies_true, and_true]
  intro known right left rest _ found _
  exact known

variable {instruction : Instruction} {label : String}

theorem jumpIf_eq_jumpOn (named : instruction.operands[0]? = some (.label label))
    (program : Program) (equal : Bool) :
    jumpIf program instruction equal =
      jumpOn (compareTopmost program.labels label) label equal := by
  unfold jumpIf jumpOn compareTopmost
  rw [Instruction.labelAt_eq_ok_iff.mpr named]
  change (if program.labels.contains label = true then _ else _) = _
  cases program.labels.contains label with
  | false => rfl
  | true =>
      simp only [if_true, bind_assoc, beq_iff_eq]
      congr 1
      funext right
      congr 1
      funext left
      congr 1
      funext found
      exact (apply_ite pure _ _ _).symm

theorem execute_jumpIf_eq_jumpOn {left right : Symbol}
    (operands : instruction.operands = [.label label, left.operand, right.operand])
    (equal : Bool) (site : Site) :
    execute site instruction (.jumpIf equal) =
      jumpOn (pushAll [left, right] >>= fun _ => compareTopmost site.program.labels label)
        label equal := by
  have named : instruction.operands[0]? = some (.label label) := by
    rw [operands]
    rfl
  have symbols : instruction.operands = .label label :: [left, right].map Symbol.operand := operands
  rw [execute_jumpIf symbols rfl, jumpIf_eq_jumpOn named, jumpOn, jumpOn, bind_assoc]

theorem ensures_pushAll_pair (left right : Symbol) {state : State}
    {success : Unit → State → Prop} {failure : Error → State → Prop} :
    Ensures (pushAll [left, right]) state success failure ↔
      (∀ first, state.frames.evaluate left = .ok first →
        (∀ second, state.frames.evaluate right = .ok second →
          success () { state with operands := second :: first :: state.operands }) ∧
        (∀ error, state.frames.evaluate right = .error error →
          failure error { state with operands := first :: state.operands })) ∧
      (∀ error, state.frames.evaluate left = .error error → failure error state) := by
  simp only [pushAll, ensures_bind, ensures_valueOf, ensures_push, ensures_pure]

end Action

/-! ## Two machines before opposite jumps -/

namespace Machine

/-- The next step of the machine is a fault with this error. -/
def FaultsWith (machine : Machine) (error : Error) : Prop :=
  ∃ location, machine.step.status = .faulted ⟨location, error⟩

/-- Both machines fault in their next step, with the same error and in the same state. -/
structure FaultTogether (machine twin : Machine) (error : Error) (after : State) : Prop where
  faults : machine.FaultsWith error
  twinFaults : twin.FaultsWith error
  states : machine.step.state = after ∧ twin.step.state = after

/-- One of the machines jumps and the other goes on, and they are in the same state.  The answer
of the comparison tells which of them jumps. -/
structure PartWays (machine twin : Machine) (equal : Bool) (target next : Status) (after : State) :
    Prop where
  goes : machine.step.status = if equal then target else next
  twinGoes : twin.step.status = if equal then next else target
  states : machine.step.state = after ∧ twin.step.state = after

/-- The operation that tests for equality decides what both machines do. -/
structure DecidedByEquality (machine twin : Machine) (left right : Value) (target next : Status)
    (after : State) : Prop where
  refused : ∀ error, BinaryOperation.apply .eq left right = .error error →
    FaultTogether machine twin error after
  compared : ∀ value, BinaryOperation.apply .eq left right = .ok value →
    ∃ equal, value = .bool equal ∧ PartWays machine twin equal target next after

/-- Two machines are in the same state before a jump on equality and the opposite jump.  Both make
the same comparison, which asks for the label. -/
structure OppositeJumps (machine twin : Machine) (position : Nat) (comparison : Action Bool)
    (label : String) : Prop where
  jumps : machine.Does 1 position (Action.jumpOn comparison label true)
  twinJumps : twin.Does 1 position (Action.jumpOn comparison label false)
  sameState : twin.state = machine.state
  sameLabels : twin.program.labels = machine.program.labels
  sameSize : twin.program.size = machine.program.size
  asks : Action.Ensures comparison machine.state
    (fun _ _ => machine.program.labels.contains label = true) (fun _ _ => True)

variable {machine twin : Machine} {position : Nat} {comparison : Action Bool} {label : String}

/-- A jump goes where its comparison sends it, and fails where its comparison fails. -/
theorem ensures_of_does_jumpOn {equal : Bool}
    (jumps : machine.Does 1 position (Action.jumpOn comparison label equal))
    (asks : Action.Ensures comparison machine.state
      (fun _ _ => machine.program.labels.contains label = true) (fun _ _ => True)) :
    Action.Ensures comparison machine.state
      (fun found after => machine.step.state = after ∧
        ∃ target, machine.program.labels.resolve label = .ok target ∧
          machine.step.status =
            continueAt machine.program (if found = equal then target else position + 1))
      (fun error after => machine.step.state = after ∧ machine.FaultsWith error) := by
  simp only [Does, Action.jumpOn, Function.iterate_one, Action.ensures_bind, Action.ensures_pure,
    Action.ensures_require] at jumps
  refine (jumps.and asks).imp ?_ fun error after failed => failed.1
  rintro found after ⟨⟨passes, -⟩, known⟩
  rcases LabelTable.contains_iff_exists_resolve.mp known with ⟨target, resolved⟩
  have passed : transfer machine.program position
      (if found = equal then .toLabel label else .next) =
        .ok (continueAt machine.program (if found = equal then target else position + 1)) := by
    by_cases taken : found = equal
    · simp only [if_pos taken, transfer, resolved]
    · simp only [if_neg taken, transfer]
  rcases passes _ passed with ⟨state, status⟩
  exact ⟨state, target, resolved, status⟩

/-- Opposite jumps fail together or part ways, as the comparison tells. -/
theorem OppositeJumps.ensures (opposite : OppositeJumps machine twin position comparison label) :
    Action.Ensures comparison machine.state
      (fun equal after => ∃ target, machine.program.labels.resolve label = .ok target ∧
        PartWays machine twin equal (continueAt machine.program target)
          (continueAt machine.program (position + 1)) after)
      (FaultTogether machine twin) := by
  have same (target : Nat) :
      continueAt twin.program target = continueAt machine.program target := by
    rw [continueAt, continueAt, opposite.sameSize]
  have first := ensures_of_does_jumpOn opposite.jumps opposite.asks
  have second := ensures_of_does_jumpOn opposite.twinJumps (by
    rw [opposite.sameState, opposite.sameLabels]
    exact opposite.asks)
  rw [opposite.sameState, opposite.sameLabels] at second
  refine (first.and second).imp ?_ ?_
  · rintro equal after ⟨⟨state, target, resolved, goes⟩, twinState, _, alsoResolved, twinGoes⟩
    cases resolved.symm.trans alsoResolved
    refine ⟨target, resolved, ?_, ?_, state, twinState⟩
    · rw [goes]
      cases equal <;> rfl
    · rw [twinGoes, same]
      cases equal <;> rfl
  · rintro error after ⟨⟨state, faults⟩, twinState, twinFaults⟩
    exact ⟨faults, twinFaults, state, twinState⟩

theorem FaultsWith.unique {error other : Error} (faults : machine.FaultsWith error)
    (alsoFaults : machine.FaultsWith other) : error = other := by
  rcases faults, alsoFaults with ⟨⟨here, status⟩, there, alsoStatus⟩
  cases status.symm.trans alsoStatus
  rfl

/-- What one of two opposite jumps fails with, the other fails with. -/
theorem OppositeJumps.faultsWith_iff
    (opposite : OppositeJumps machine twin position comparison label) (error : Error) :
    machine.FaultsWith error ↔ twin.FaultsWith error := by
  have ends := opposite.ensures
  unfold Action.Ensures at ends
  cases ending : comparison.run machine.state with
  | ok equal after =>
      rw [ending] at ends
      rcases ends with ⟨target, -, goes, twinGoes, -⟩
      constructor
      · rintro ⟨location, faulted⟩
        rw [faulted] at goes
        cases equal <;> exact absurd goes.symm (continueAt_ne_faulted _ _ _)
      · rintro ⟨location, faulted⟩
        rw [faulted] at twinGoes
        cases equal <;> exact absurd twinGoes.symm (continueAt_ne_faulted _ _ _)
  | error cause after =>
      rw [ending] at ends
      constructor
      · intro faults
        exact faults.unique ends.faults ▸ ends.twinFaults
      · intro faults
        exact faults.unique ends.twinFaults ▸ ends.faults

/-- The comparison of a jump is the operation that tests for equality. -/
theorem decidedByEquality {left right : Value} {target next : Status} {after : State}
    (compared : ∀ equal, equals left right = .ok equal →
      PartWays machine twin equal target next after)
    (refused : ∀ error, equals left right = .error error →
      FaultTogether machine twin error after) :
    DecidedByEquality machine twin left right target next after := by
  constructor
  · intro error failed
    rw [BinaryOperation.eq_eq_map] at failed
    cases answer : equals left right with
    | ok equal => simp [answer, Except.map] at failed
    | error cause =>
        rw [answer] at failed
        cases failed
        exact refused error answer
  · intro value answered
    rw [BinaryOperation.eq_eq_map] at answered
    cases answer : equals left right with
    | ok equal =>
        rw [answer] at answered
        cases answered
        exact ⟨equal, rfl, compared equal answer⟩
    | error cause => simp [answer, Except.map] at answered

section Replaced

variable {before behind : List Instruction} {first second : Instruction} {program : Program}

theorem standsAt_of_append (running : machine.status = .running before.length)
    (listed : machine.program.instructions = before ++ first :: behind) :
    machine.StandsAt before.length (first :: behind) := by
  refine ⟨running, ?_⟩
  rw [listed, List.drop_left]

/-- A machine and the same machine with the opposite jump in its program. -/
theorem oppositeJumps_of_replace
    (built : Program.ofInstructions (before ++ first :: behind) = .ok program)
    (loaded : machine.program = program) (running : machine.status = .running before.length)
    (executes : ∀ site : Site, site.program.labels = program.labels →
      Action.execute site first first.opcode.role = Action.jumpOn comparison label true)
    (twinExecutes : ∀ site : Site, site.program.labels = program.labels →
      Action.execute site second second.opcode.role = Action.jumpOn comparison label false)
    (asks : Action.Ensures comparison machine.state
      (fun _ _ => program.labels.contains label = true) (fun _ _ => True)) :
    OppositeJumps machine
      { machine with program := ⟨before ++ second :: behind, program.labels⟩ }
      before.length comparison label := by
  subst loaded
  have listed := Program.instructions_of_ofInstructions built
  constructor
  · rw [← executes (machine.siteAt before.length) rfl]
    exact (standsAt_of_append running listed).does_execute
  · have stands : StandsAt
        { machine with program := ⟨before ++ second :: behind, machine.program.labels⟩ }
        before.length (second :: behind) := standsAt_of_append running rfl
    have executed := stands.does_execute
    rwa [twinExecutes _ rfl] at executed
  · rfl
  · rfl
  · simp only [Program.size, listed, List.length_append, List.length_cons]
  · exact asks

/-- The cases of the comparison, in the order in which it makes its checks. -/
theorem cases_of_compareTopmost {instructions : List Instruction}
    (built : Program.ofInstructions instructions = .ok program) {next : Status} {inner : State}
    (ends : Action.Ensures (Action.compareTopmost program.labels label) inner
      (fun equal after => ∃ target, program.labels.resolve label = .ok target ∧
        PartWays machine twin equal (continueAt program target) next after)
      (FaultTogether machine twin)) :
    ((∀ target, ¬program.LabelAt label target) →
      FaultTogether machine twin (.undefinedLabel label) inner) ∧
    ∀ target, program.LabelAt label target →
      (inner.operands.length < 2 →
        FaultTogether machine twin .emptyOperandStack { inner with operands := [] }) ∧
      ∀ second first rest, inner.operands = second :: first :: rest →
        DecidedByEquality machine twin first second (.running target) next
          { inner with operands := rest } := by
  rcases (Action.ensures_compareTopmost program.labels label).mp ends with ⟨found, missing⟩
  refine ⟨fun nowhere => missing ((Program.contains_eq_false_iff_labelAt built label).mpr nowhere),
    fun target stands => ?_⟩
  have resolved := (Program.resolve_eq_ok_iff_labelAt built label target).mpr stands
  rcases found (LabelTable.contains_iff_exists_resolve.mpr ⟨target, resolved⟩) with
    ⟨two, one, none⟩
  constructor
  · intro short
    rcases stack : inner.operands with _ | ⟨only, _ | ⟨_, _⟩⟩
    · rw [← stack]
      exact none stack
    · exact one only stack
    · simp only [stack, List.length_cons] at short
      omega
  · intro second first rest stack
    rcases two second first rest stack with ⟨compared, refused⟩
    refine decidedByEquality (fun equal answer => ?_) refused
    rcases compared equal answer with ⟨_, alsoResolved, parted⟩
    cases resolved.symm.trans alsoResolved
    rcases stands with ⟨_, fetched, -⟩
    rwa [continueAt_of_at? fetched] at parted

end Replaced

/-- Opposite jumps and the operation that tests for equality agree.  Take a program with a jump on
equality, at whatever place.  The opposite jump can stand there instead, and a machine that has come
to this place, in whatever state, may have either of the two programs.  It then faults with the same
error in both.

A jump with two symbols reads them first, from the left to the right, then it asks for its label,
and the last error is that of the comparison.  If there is none, the jump on equality goes to the
label if the values are equal and on to the next instruction if they are not, and the opposite jump
does the reverse.  The state is the one before the jump in either case.

A jump that works on the stack asks for its label first and then takes two values.  All else is as
before, except that exactly these two values are gone. -/
theorem opposite_jumps_agree_with_equality (before behind : List Instruction) (order : Nat)
    (label : String) :
    (∀ (left right : Symbol) (program : Program),
      let jump (opcode : Opcode) : Instruction :=
        ⟨order, opcode, [.label label, left.operand, right.operand]⟩
      Program.ofInstructions (before ++ jump .jumpIfEq :: behind) = .ok program →
      ∃ opposite, Program.ofInstructions (before ++ jump .jumpIfNeq :: behind) = .ok opposite ∧
        ∀ machine : Machine, machine.program = program →
          machine.status = .running before.length →
          let twin := { machine with program := opposite }
          let state := machine.state
          let next := continueAt program (before.length + 1)
          (∀ error, machine.FaultsWith error ↔ twin.FaultsWith error) ∧
          (∀ error, state.frames.evaluate left = .error error →
            FaultTogether machine twin error state) ∧
          ∀ first, state.frames.evaluate left = .ok first →
            (∀ error, state.frames.evaluate right = .error error →
              FaultTogether machine twin error
                { state with operands := first :: state.operands }) ∧
            ∀ second, state.frames.evaluate right = .ok second →
              ((∀ target, ¬program.LabelAt label target) →
                FaultTogether machine twin (.undefinedLabel label)
                  { state with operands := second :: first :: state.operands }) ∧
              ∀ target, program.LabelAt label target →
                DecidedByEquality machine twin first second (.running target) next state) ∧
    ∀ program : Program,
      let jump (opcode : Opcode) : Instruction := ⟨order, opcode, [.label label]⟩
      Program.ofInstructions (before ++ jump .jumpIfEqs :: behind) = .ok program →
      ∃ opposite, Program.ofInstructions (before ++ jump .jumpIfNeqs :: behind) = .ok opposite ∧
        ∀ machine : Machine, machine.program = program →
          machine.status = .running before.length →
          let twin := { machine with program := opposite }
          let state := machine.state
          let next := continueAt program (before.length + 1)
          (∀ error, machine.FaultsWith error ↔ twin.FaultsWith error) ∧
          ((∀ target, ¬program.LabelAt label target) →
            FaultTogether machine twin (.undefinedLabel label) state) ∧
          ∀ target, program.LabelAt label target →
            (state.operands.length < 2 →
              FaultTogether machine twin .emptyOperandStack { state with operands := [] }) ∧
            ∀ second first rest, state.operands = second :: first :: rest →
              DecidedByEquality machine twin first second (.running target) next
                { state with operands := rest } := by
  constructor
  · intro left right program jump built
    refine ⟨_, Program.ofInstructions_replace (by simp [jump]) (by simp [jump]) built, ?_⟩
    intro machine loaded running twin state next
    have executes (opcode : Opcode) (equal : Bool) (role : opcode.role = .jumpIf equal)
        (site : Site) (same : site.program.labels = program.labels) :
        Action.execute site (jump opcode) opcode.role = Action.jumpOn
          (Action.pushAll [left, right] >>= fun _ => Action.compareTopmost program.labels label)
          label equal := by
      rw [role, Action.execute_jumpIf_eq_jumpOn rfl, same]
    have asks : Action.Ensures
        (Action.pushAll [left, right] >>= fun _ => Action.compareTopmost program.labels label)
        machine.state (fun _ _ => program.labels.contains label = true) (fun _ _ => True) := by
      simp only [Action.ensures_bind, Action.ensures_pushAll_pair,
        Action.ensures_compareTopmost_contains, implies_true, and_true]
    have opposite : OppositeJumps machine twin before.length _ label :=
      oppositeJumps_of_replace built loaded running (executes .jumpIfEq true rfl)
        (executes .jumpIfNeq false rfl) asks
    have ends := opposite.ensures
    rw [Action.ensures_bind, Action.ensures_pushAll_pair, loaded] at ends
    rcases ends with ⟨readable, unreadable⟩
    refine ⟨opposite.faultsWith_iff, unreadable, fun first evaluated => ?_⟩
    rcases readable first evaluated with ⟨bothReadable, secondUnreadable⟩
    refine ⟨secondUnreadable, fun second alsoEvaluated => ?_⟩
    rcases cases_of_compareTopmost built (bothReadable second alsoEvaluated) with
      ⟨undefined, defined⟩
    exact ⟨undefined, fun target stands => (defined target stands).2 second first _ rfl⟩
  · intro program jump built
    refine ⟨_, Program.ofInstructions_replace (by simp [jump]) (by simp [jump]) built, ?_⟩
    intro machine loaded running twin state next
    have executes (opcode : Opcode) (equal : Bool) (role : opcode.role = .jumpIfOnStack equal)
        (site : Site) (same : site.program.labels = program.labels) :
        Action.execute site (jump opcode) opcode.role =
          Action.jumpOn (Action.compareTopmost program.labels label) label equal := by
      rw [role, Action.execute, Action.jumpIf_eq_jumpOn rfl, same]
    have opposite : OppositeJumps machine twin before.length _ label :=
      oppositeJumps_of_replace built loaded running (executes .jumpIfEqs true rfl)
        (executes .jumpIfNeqs false rfl)
        (Action.ensures_compareTopmost_contains program.labels label machine.state)
    have ends := opposite.ensures
    rw [loaded] at ends
    exact ⟨opposite.faultsWith_iff, cases_of_compareTopmost built ends⟩

/-- Two jumps at the end of a program.  Nothing and a number are not equal, so one of the machines
halts and the other goes back to the label.  On the stack the label is missed before the
values are. -/
theorem opposite_jumps_agree_with_equality_at_end :
    let top : List Instruction := [⟨1, .label, [.label "top"]⟩]
    let jump (opcode : Opcode) : Instruction :=
      ⟨2, opcode, [.label "top", .literal .nil, .literal (.int 3)]⟩
    let program : Program := ⟨top ++ [jump .jumpIfEq], ⟨[("top", 0)]⟩⟩
    let machine := (start program (.ofBytes []) .unlimited .unlimited false none).step
    let lost (opcode : Opcode) : Instruction := ⟨1, opcode, [.label "nowhere"]⟩
    let stackProgram : Program := ⟨[lost .jumpIfEqs], .empty⟩
    let stackMachine := start stackProgram (.ofBytes []) .unlimited .unlimited false none
    Program.ofInstructions (top ++ [jump .jumpIfEq]) = .ok program ∧
      machine.status = .running 1 ∧
      (∃ opposite, Program.ofInstructions (top ++ [jump .jumpIfNeq]) = .ok opposite ∧
        PartWays machine { machine with program := opposite } false (.running 0) (.halted 0)
          machine.state) ∧
      Program.ofInstructions [lost .jumpIfEqs] = .ok stackProgram ∧
      ∃ opposite, Program.ofInstructions [lost .jumpIfNeqs] = .ok opposite ∧
        FaultTogether stackMachine { stackMachine with program := opposite }
          (.undefinedLabel "nowhere") stackMachine.state := by
  intro top jump program machine lost stackProgram stackMachine
  have built : Program.ofInstructions (top ++ [jump .jumpIfEq]) = .ok program := by decide +kernel
  have stackBuilt : Program.ofInstructions [lost .jumpIfEqs] = .ok stackProgram := by
    decide +kernel
  have running : machine.status = .running 1 := by decide +kernel
  have stands : program.LabelAt "top" 0 := ⟨_, rfl, rfl, rfl⟩
  refine ⟨built, running, ?_, stackBuilt, ?_⟩
  · rcases (opposite_jumps_agree_with_equality top [] 2 "top").1 (.literal .nil)
      (.literal (.int 3)) program built with ⟨opposite, oppositeBuilt, agree⟩
    rcases (agree machine rfl running).2.2 .nil rfl with ⟨-, compares⟩
    rcases ((compares (.int 3) rfl).2 0 stands).compared (.bool false) rfl with
      ⟨equal, same, parted⟩
    cases same
    exact ⟨opposite, oppositeBuilt, parted⟩
  · rcases (opposite_jumps_agree_with_equality [] [] 1 "nowhere").2 stackProgram stackBuilt with
      ⟨opposite, oppositeBuilt, agree⟩
    have nowhere := (Program.contains_eq_false_iff_labelAt stackBuilt "nowhere").mp rfl
    exact ⟨opposite, oppositeBuilt, (agree stackMachine rfl rfl).2.1 nowhere⟩

end Machine
end FrameMachine
