import FrameMachine.Proofs.Checked
import FrameMachine.Proofs.Footprint
import FrameMachine.Proofs.Sequence
import Mathlib.Data.List.Basic

namespace FrameMachine

/-!
# Two forms of one operation

Fifteen operations and two conditional jumps have two opcodes each.  One names its
operands and its destination, the other works on the operand stack alone.  The first is
no more than an abbreviation: executing it is executing a push for each operand, the
stack form, and a pop into the destination, in this order and up to the first error.

Two machines are compared, one before the instruction and one before its expansion, in
the same state but possibly in different programs.  `Machine.Expands` says that the
expansion does the action that the instruction does, once for all operations and once for
the jumps.  What one action leaves behind is the same in both machines, whether it ends
well or with an error.
-/

namespace Opcode

/-- The opcode that does on the operand stack alone what the given one does with its
operands. -/
def stackForm? : Opcode → Option Opcode
  | .add => some .adds
  | .sub => some .subs
  | .mul => some .muls
  | .idiv => some .idivs
  | .div => some .divs
  | .lt => some .lts
  | .gt => some .gts
  | .eq => some .eqs
  | .and => some .ands
  | .or => some .ors
  | .not => some .nots
  | .int2char => some .int2chars
  | .stri2int => some .stri2ints
  | .int2float => some .int2floats
  | .float2int => some .float2ints
  | .jumpIfEq => some .jumpIfEqs
  | .jumpIfNeq => some .jumpIfNeqs
  | _ => none

/-- The opcodes and operands that spell out an instruction by a stack form.  The first
operand is the destination of a value or the label of a jump, and the others are
pushed. -/
def expansion (stackForm : Opcode) : List Operand → List (Opcode × List Operand)
  | [] => []
  | first :: symbols =>
      symbols.map (fun symbol => (.pushs, [symbol])) ++
        match stackForm.role with
        | .jumpIfOnStack _ => [(stackForm, [first])]
        | _ => [(stackForm, []), (.pops, [first])]

/-- A stack form plays the role on the stack of the role it stands for. -/
theorem role_of_stackForm? {opcode stackForm : Opcode}
    (paired : opcode.stackForm? = some stackForm) :
    (∃ operation, opcode.role = .binaryInto operation ∧
      stackForm.role = .binaryOnStack operation) ∨
    (∃ operation, opcode.role = .unaryInto operation ∧
      stackForm.role = .unaryOnStack operation) ∨
    (∃ equal, opcode.role = .jumpIf equal ∧ stackForm.role = .jumpIfOnStack equal) := by
  cases opcode <;> cases paired <;> simp [role]

/-- An instruction with a stack form passes control to the instruction behind it or to
the label it names. -/
theorem control_of_stackForm? {opcode stackForm : Opcode}
    (paired : opcode.stackForm? = some stackForm) {instruction : Instruction} {position : Nat}
    {before after : List Nat} {control : Transfer}
    (effect : opcode.role.CallEffect instruction position before after control) :
    control = .next ∨
      ∃ name, instruction.labelAt 0 = .ok name ∧ control = .toLabel name := by
  rcases role_of_stackForm? paired with
    ⟨operation, played, -⟩ | ⟨operation, played, -⟩ | ⟨equal, played, -⟩
  · rw [played] at effect
    exact Or.inl effect.2
  · rw [played] at effect
    exact Or.inl effect.2
  · rw [played] at effect
    exact effect.2

end Opcode

namespace Action

/-- Push the values of symbols, one after the other. -/
def pushAll : List Symbol → Action Unit
  | [] => pure ()
  | symbol :: symbols => do
      push (← valueOf symbol)
      pushAll symbols

/-- Apply an operation to the values of symbols and assign its result. -/
def computeInto (v : Variable) (apply : Action Unit) (symbols : List Symbol) :
    Action Transfer := do
  pushAll symbols
  apply
  let result ← pop
  onFrames fun frames => frames.assign v result
  pure .next

variable {instruction : Instruction} {slot : Nat}

theorem pushSymbol_eq {symbol : Symbol}
    (found : instruction.operands[slot]? = some symbol.operand) :
    pushSymbol instruction slot = valueOf symbol >>= push := by
  unfold pushSymbol symbolValue
  rw [Instruction.symbolAt_eq_ok_iff.mpr found]
  rfl

theorem assignAt_eq {v : Variable} (found : instruction.operands[slot]? = some (.var v))
    (value : Value) :
    assignAt instruction slot value = onFrames fun frames => frames.assign v value := by
  unfold assignAt
  rw [Instruction.varAt_eq_ok_iff.mpr found]
  rfl

/-- A jump depends on its instruction through the label, and on the program through the
names of its labels. -/
theorem jumpIf_congr {other : Instruction} {name : String} {program otherProgram : Program}
    (found : instruction.operands[0]? = some (.label name))
    (otherFound : other.operands[0]? = some (.label name))
    (sameLabels : ∀ name, otherProgram.labels.contains name = program.labels.contains name)
    (equal : Bool) :
    jumpIf otherProgram other equal = jumpIf program instruction equal := by
  unfold jumpIf
  rw [Instruction.labelAt_eq_ok_iff.mpr found, Instruction.labelAt_eq_ok_iff.mpr otherFound]
  simp only [sameLabels]

end Action

/-! ## Expansions are checked -/

theorem Instruction.isChecked_push {instruction : Instruction} {symbol : Symbol}
    (spelled : (instruction.opcode, instruction.operands) = (.pushs, [symbol.operand]))
    (value : symbol.operand ≠ .literal .uninitialized) : instruction.IsChecked := by
  refine isChecked_of_parts spelled rfl ?_ ?_
  · cases symbol <;> rfl
  · intro member
    exact value (List.mem_singleton.mp member).symm

/-- The pushes of an expansion are checked, and so is all of it if its ending is. -/
theorem isChecked_of_expansion {symbols : List Symbol} {ending : List (Opcode × List Operand)}
    {sequence : List Instruction}
    (spelled : sequence.map (fun each => (each.opcode, each.operands)) =
      symbols.map (fun symbol => (.pushs, [symbol.operand])) ++ ending)
    (absent : .literal .uninitialized ∉ symbols.map Symbol.operand)
    (ends : ∀ each : Instruction, (each.opcode, each.operands) ∈ ending → each.IsChecked) :
    ∀ each ∈ sequence, each.IsChecked := by
  intro each member
  have listed := List.mem_map_of_mem (f := fun each => (each.opcode, each.operands)) member
  rw [spelled] at listed
  rcases List.mem_append.mp listed with pushed | ended
  · obtain ⟨symbol, among, equal⟩ := List.mem_map.mp pushed
    refine Instruction.isChecked_push equal.symm fun placeholder => absent ?_
    rw [← placeholder]
    exact List.mem_map_of_mem among
  · exact ends each ended

theorem isChecked_of_operation_ending {stackForm : Opcode} (none : stackForm.signature = [])
    {v : Variable} {each : Instruction}
    (member : (each.opcode, each.operands) ∈ [(stackForm, []), (.pops, [Operand.var v])]) :
    each.IsChecked := by
  rcases List.mem_cons.mp member with applied | popped
  · refine Instruction.isChecked_of_parts applied ?_ ?_ List.not_mem_nil
    · rw [none]
      rfl
    · rw [none]
      rfl
  · refine Instruction.isChecked_of_parts (List.mem_singleton.mp popped) rfl rfl ?_
    simp

/-! ## What instructions with operands do -/

namespace Action

variable {instruction : Instruction} {symbols : List Symbol} {v : Variable}

theorem execute_binaryInto
    (operands : instruction.operands = .var v :: symbols.map Symbol.operand)
    (two : symbols.length = 2) (operation : BinaryOperation) (site : Site) :
    execute site instruction (.binaryInto operation) =
      computeInto v (binary operation) symbols := by
  obtain ⟨left, right, rfl⟩ := List.length_eq_two.mp two
  have destination : instruction.operands[0]? = some (.var v) := by
    rw [operands]
    rfl
  have first : instruction.operands[1]? = some left.operand := by
    rw [operands]
    rfl
  have second : instruction.operands[2]? = some right.operand := by
    rw [operands]
    rfl
  simp only [execute, pushSymbol_eq first, pushSymbol_eq second, assignAt_eq destination,
    computeInto, pushAll, bind_assoc, pure_bind]

theorem execute_unaryInto
    (operands : instruction.operands = .var v :: symbols.map Symbol.operand)
    (one : symbols.length = 1) (operation : UnaryOperation) (site : Site) :
    execute site instruction (.unaryInto operation) =
      computeInto v (unary operation) symbols := by
  obtain ⟨operand, rfl⟩ := List.length_eq_one_iff.mp one
  have destination : instruction.operands[0]? = some (.var v) := by
    rw [operands]
    rfl
  have first : instruction.operands[1]? = some operand.operand := by
    rw [operands]
    rfl
  simp only [execute, pushSymbol_eq first, assignAt_eq destination, computeInto, pushAll,
    bind_assoc, pure_bind]

theorem execute_jumpIf {label : Operand}
    (operands : instruction.operands = label :: symbols.map Symbol.operand)
    (two : symbols.length = 2) (equal : Bool) (site : Site) :
    execute site instruction (.jumpIf equal) =
      pushAll symbols >>= fun _ => jumpIf site.program instruction equal := by
  obtain ⟨left, right, rfl⟩ := List.length_eq_two.mp two
  have first : instruction.operands[1]? = some left.operand := by
    rw [operands]
    rfl
  have second : instruction.operands[2]? = some right.operand := by
    rw [operands]
    rfl
  simp only [execute, pushSymbol_eq first, pushSymbol_eq second, pushAll, bind_assoc, pure_bind]

end Action

/-! ## What their expansions do -/

namespace Machine

variable {machine : Machine} {position : Nat} {instruction : Instruction}

/-- Any number of pushes before other instructions. -/
theorem StandsAt.does_pushes {symbols : List Symbol} {pushes rest : List Instruction}
    (spelled : pushes.map (fun each => (each.opcode, each.operands)) =
      symbols.map fun symbol => (.pushs, [symbol.operand]))
    {remaining : Action Transfer} {count last : Nat}
    (stands : machine.StandsAt position (pushes ++ rest)) (more : rest ≠ [])
    (continues : ∀ next : Machine, next.program = machine.program →
      next.StandsAt (position + pushes.length) rest → next.Does count last remaining) :
    machine.Does (count + pushes.length) last (Action.pushAll symbols >>= fun _ => remaining) := by
  induction symbols generalizing machine position pushes with
  | nil =>
      rw [List.map_nil, List.map_eq_nil_iff] at spelled
      subst spelled
      exact continues machine rfl stands
  | cons symbol symbols inductionHypothesis =>
      obtain ⟨push, others, rfl, head, tail⟩ := List.map_eq_cons_iff.mp spelled
      obtain ⟨opcode, operands⟩ := Prod.mk.inj head
      have found : push.operands[0]? = some symbol.operand := by
        rw [operands]
        rfl
      have passes : Action.execute (machine.siteAt position) push push.opcode.role =
          (Action.valueOf symbol >>= Action.push) >>= fun _ => pure .next := by
        rw [opcode, ← Action.pushSymbol_eq found]
        rfl
      rw [List.length_cons, ← Nat.add_assoc, Action.pushAll, bind_assoc]
      simp only [bind_assoc]
      rw [← bind_assoc]
      -- Behind the first push stands another machine, hence the induction over all of them.
      refine stands.does_cons (List.append_ne_nil_of_right_ne_nil _ more) passes
        fun middle sameProgram standing => ?_
      refine inductionHypothesis tail standing fun next nextProgram arrived => ?_
      refine continues next (nextProgram.trans sameProgram) ?_
      rw [List.length_cons, Nat.add_comm others.length 1, ← Nat.add_assoc]
      exact arrived

/-- The expansion of an operation. -/
theorem StandsAt.does_computeInto {apply : Action Unit} {stackForm : Opcode}
    (applies : ∀ (site : Site) (each : Instruction), each.opcode = stackForm →
      Action.execute site each each.opcode.role = apply >>= fun _ => pure .next)
    {symbols : List Symbol} {v : Variable} {sequence : List Instruction}
    (spelled : sequence.map (fun each => (each.opcode, each.operands)) =
      symbols.map (fun symbol => (.pushs, [symbol.operand])) ++
        [(stackForm, []), (.pops, [.var v])])
    (stands : machine.StandsAt position sequence) :
    machine.Does sequence.length (position + sequence.length - 1)
      (Action.computeInto v apply symbols) := by
  obtain ⟨pushes, behind, rfl, pushed, applied⟩ := List.map_eq_append_iff.mp spelled
  obtain ⟨operation, after, rfl, head, popped⟩ := List.map_eq_cons_iff.mp applied
  obtain ⟨popping, none, rfl, last, nothing⟩ := List.map_eq_cons_iff.mp popped
  rw [List.map_eq_nil_iff] at nothing
  subst nothing
  obtain ⟨opcode, operands⟩ := Prod.mk.inj last
  have found : popping.operands[0]? = some (.var v) := by
    rw [operands]
    rfl
  rw [List.length_append, Nat.add_comm pushes.length]
  refine stands.does_pushes pushed (List.cons_ne_nil _ _) fun first _ standing => ?_
  refine standing.does_cons (List.cons_ne_nil _ _) (applies _ operation (Prod.mk.inj head).1)
    fun second _ standing => ?_
  have popped := standing.does_execute
  rw [opcode] at popped
  simp only [Opcode.role, Action.execute, Action.assignAt_eq found] at popped
  have here : position + ([operation, popping].length + pushes.length) - 1 =
      position + pushes.length + 1 := by
    simp only [List.length_cons, List.length_nil]
    omega
  rw [here]
  exact popped

/-- The expansion of a conditional jump. -/
theorem StandsAt.does_jumpIf {equal : Bool} {stackForm : Opcode}
    (played : stackForm.role = .jumpIfOnStack equal) {symbols : List Symbol} {name : String}
    {sequence : List Instruction}
    (spelled : sequence.map (fun each => (each.opcode, each.operands)) =
      symbols.map (fun symbol => (.pushs, [symbol.operand])) ++ [(stackForm, [.label name])])
    (found : instruction.operands[0]? = some (.label name)) {program : Program}
    (sameLabels : ∀ name, machine.program.labels.contains name = program.labels.contains name)
    (stands : machine.StandsAt position sequence) :
    machine.Does sequence.length (position + sequence.length - 1)
      (Action.pushAll symbols >>= fun _ => Action.jumpIf program instruction equal) := by
  obtain ⟨pushes, behind, rfl, pushed, applied⟩ := List.map_eq_append_iff.mp spelled
  obtain ⟨jump, none, rfl, last, nothing⟩ := List.map_eq_cons_iff.mp applied
  rw [List.map_eq_nil_iff] at nothing
  subst nothing
  obtain ⟨opcode, operands⟩ := Prod.mk.inj last
  have jumpFound : jump.operands[0]? = some (.label name) := by
    rw [operands]
    rfl
  rw [List.length_append, Nat.add_comm pushes.length]
  refine stands.does_pushes pushed (List.cons_ne_nil _ _) fun next sameProgram standing => ?_
  rw [← sameProgram] at sameLabels
  have jumped := standing.does_execute
  rw [opcode, played, Action.execute] at jumped
  rw [← Action.jumpIf_congr found jumpFound sameLabels]
  have here : position + ([jump].length + pushes.length) - 1 = position + pushes.length := by
    simp only [List.length_cons, List.length_nil]
    omega
  rw [here]
  exact jumped

/-- A sequence spells out an instruction of a program: it is checked, and in every program
with the same labels it does what the instruction does. -/
structure Expands (instruction : Instruction) (program : Program)
    (sequence : List Instruction) : Prop where
  areChecked : ∀ each ∈ sequence, each.IsChecked
  does : ∃ action,
    (∀ site : Site, site.program = program →
      Action.execute site instruction instruction.opcode.role = action) ∧
    ∀ (machine : Machine) (start : Nat),
      (∀ name, machine.program.labels.contains name = program.labels.contains name) →
      machine.StandsAt start sequence →
        machine.Does sequence.length (start + sequence.length - 1) action

section Expansions

variable {instruction : Instruction} {stackForm : Opcode} {sequence : List Instruction}

/-- Operations of any number of operands. -/
theorem expands_operation (passed : instruction.IsChecked) (number : Nat)
    (apply : Action Unit)
    (declared : instruction.opcode.signature = .var :: List.replicate number .symb)
    (executes : ∀ v symbols, instruction.operands = .var v :: symbols.map Symbol.operand →
      symbols.length = number → ∀ site,
        Action.execute site instruction instruction.opcode.role =
          Action.computeInto v apply symbols)
    (bare : stackForm.signature = [])
    (applies : ∀ (site : Site) (each : Instruction), each.opcode = stackForm →
      Action.execute site each each.opcode.role = apply >>= fun _ => pure .next)
    (expansion : ∀ first symbols, stackForm.expansion (first :: symbols) =
      symbols.map (fun symbol => (.pushs, [symbol])) ++ [(stackForm, []), (.pops, [first])])
    (spelled : sequence.map (fun each => (each.opcode, each.operands)) =
      stackForm.expansion instruction.operands) (program : Program) :
    Expands instruction program sequence := by
  obtain ⟨destination, symbols, operands, absent, fits, length⟩ := passed.exists_operands declared
  obtain ⟨v, rfl⟩ := Operand.exists_var_of_fits fits
  rw [operands, expansion, List.map_map] at spelled
  refine ⟨isChecked_of_expansion spelled absent fun each => isChecked_of_operation_ending bare,
    Action.computeInto v apply symbols, ?_, ?_⟩
  · intro site _
    exact executes v symbols operands length site
  · intro machine start _ stands
    exact stands.does_computeInto applies spelled

theorem expands_binary (passed : instruction.IsChecked) {operation : BinaryOperation}
    (into : instruction.opcode.role = .binaryInto operation)
    (onStack : stackForm.role = .binaryOnStack operation)
    (spelled : sequence.map (fun each => (each.opcode, each.operands)) =
      stackForm.expansion instruction.operands) (program : Program) :
    Expands instruction program sequence := by
  refine expands_operation passed 2 (Action.binary operation) ?_ ?_ ?_ ?_ ?_ spelled program
  · rw [Opcode.signature, into]
    rfl
  · intro v symbols operands two site
    rw [into]
    exact Action.execute_binaryInto operands two operation site
  · rw [Opcode.signature, onStack]
    rfl
  · intro site each same
    rw [same, onStack]
    rfl
  · intro first symbols
    rw [Opcode.expansion, onStack]

theorem expands_unary (passed : instruction.IsChecked) {operation : UnaryOperation}
    (into : instruction.opcode.role = .unaryInto operation)
    (onStack : stackForm.role = .unaryOnStack operation)
    (spelled : sequence.map (fun each => (each.opcode, each.operands)) =
      stackForm.expansion instruction.operands) (program : Program) :
    Expands instruction program sequence := by
  refine expands_operation passed 1 (Action.unary operation) ?_ ?_ ?_ ?_ ?_ spelled program
  · rw [Opcode.signature, into]
    rfl
  · intro v symbols operands one site
    rw [into]
    exact Action.execute_unaryInto operands one operation site
  · rw [Opcode.signature, onStack]
    rfl
  · intro site each same
    rw [same, onStack]
    rfl
  · intro first symbols
    rw [Opcode.expansion, onStack]

theorem expands_jumpIf (passed : instruction.IsChecked) {equal : Bool}
    (named : instruction.opcode.role = .jumpIf equal)
    (onStack : stackForm.role = .jumpIfOnStack equal)
    (spelled : sequence.map (fun each => (each.opcode, each.operands)) =
      stackForm.expansion instruction.operands) (program : Program) :
    Expands instruction program sequence := by
  have declared : instruction.opcode.signature = .label :: List.replicate 2 .symb := by
    rw [Opcode.signature, named]
    rfl
  have labelled : stackForm.signature = [.label] := by
    rw [Opcode.signature, onStack]
    rfl
  obtain ⟨first, symbols, operands, absent, fits, two⟩ := passed.exists_operands declared
  obtain ⟨name, rfl⟩ := Operand.exists_label_of_fits fits
  have found : instruction.operands[0]? = some (.label name) := by
    rw [operands]
    rfl
  rw [operands, Opcode.expansion, onStack, List.map_map] at spelled
  refine ⟨isChecked_of_expansion spelled absent fun each jump => ?_,
    Action.pushAll symbols >>= fun _ => Action.jumpIf program instruction equal, ?_, ?_⟩
  · refine Instruction.isChecked_of_parts (List.mem_singleton.mp jump) ?_ ?_ (by simp)
    · rw [labelled]
      rfl
    · rw [labelled]
      rfl
  · intro site inProgram
    rw [named, ← inProgram]
    exact Action.execute_jumpIf operands two equal site
  · intro machine start sameLabels stands
    exact stands.does_jumpIf onStack spelled found sameLabels

end Expansions

/-! ## Agreement -/

/-- Two machines have come to the same, the first with an instruction at a position and
the second with instructions up to a position: the states are equal, and either both
have a fault with one error or both have passed control in one way, to the instruction
behind or to the label that is named. -/
structure SameOutcome (instruction : Instruction) (position : Nat) (first : Machine)
    (last : Nat) (second : Machine) : Prop where
  state : second.state = first.state
  status :
    (∃ error here there, first.status = .faulted ⟨here, error⟩ ∧
      second.status = .faulted ⟨there, error⟩) ∨
    ∃ control, (control = .next ∨
        ∃ name, instruction.labelAt 0 = .ok name ∧ control = .toLabel name) ∧
      transfer first.program position control = .ok first.status ∧
      transfer second.program last control = .ok second.status

/-- Control that is not passed to a fixed position is passed in two programs alike if
they have the same labels. -/
theorem transfer_agrees {program other : Program} {position last : Nat} {control : Transfer}
    (named : control = .next ∨ ∃ name, control = .toLabel name)
    (sameLabels : ∀ name, other.labels.contains name = program.labels.contains name) :
    (∃ status status', transfer program position control = .ok status ∧
      transfer other last control = .ok status') ∨
    ∃ error, transfer program position control = .error error ∧
      transfer other last control = .error error := by
  rcases named with rfl | ⟨name, rfl⟩
  · exact Or.inl ⟨_, _, rfl, rfl⟩
  · have same := sameLabels name
    rw [LabelTable.contains, LabelTable.contains] at same
    simp only [transfer, LabelTable.resolve]
    cases found : program.labels.find? name with
    | none =>
        rw [found, Option.isSome_none, Option.isSome_eq_false_iff, Option.isNone_iff_eq_none]
          at same
        rw [same]
        exact Or.inr ⟨_, rfl, rfl⟩
    | some target =>
        rw [found, Option.isSome_some, Option.isSome_iff_exists] at same
        obtain ⟨target', found'⟩ := same
        rw [found']
        exact Or.inl ⟨_, _, rfl, rfl⟩

/-- A machine that does in several steps what an instruction with a stack form does comes
to the same as a machine before the instruction. -/
theorem sameOutcome_of_does {compact expanded : Machine} {position count last : Nat}
    {stackForm : Opcode} {action : Action Transfer}
    (paired : instruction.opcode.stackForm? = some stackForm)
    (compactStands : compact.StandsAt position [instruction])
    (executes : Action.execute (compact.siteAt position) instruction instruction.opcode.role =
      action)
    (expandedDoes : expanded.Does count last action)
    (sameState : expanded.state = compact.state)
    (sameLabels : ∀ name,
      expanded.program.labels.contains name = compact.program.labels.contains name) :
    SameOutcome instruction position compact.step last (step^[count] expanded) := by
  have compactProgram := (step_program compact).1
  have expandedProgram := (iterate_program count expanded).1
  have compactDoes := compactStands.does_execute
  have effect := Action.ensures_execute_calls (compact.siteAt position) instruction
    instruction.opcode.role compact.state
  rw [executes, Action.Ensures] at effect
  rw [executes, Does, Action.ensures_bind, Action.Ensures, Function.iterate_one] at compactDoes
  rw [Does, Action.ensures_bind, Action.Ensures, sameState] at expandedDoes
  cases ending : action.run compact.state with
  | error error after =>
      rw [ending] at compactDoes expandedDoes
      obtain ⟨state, here, status⟩ := compactDoes
      obtain ⟨state', there, status'⟩ := expandedDoes
      exact ⟨state'.trans state.symm, Or.inl ⟨error, here, there, status, status'⟩⟩
  | ok control after =>
      simp only [ending, Action.ensures_require] at compactDoes expandedDoes effect
      have passes := Opcode.control_of_stackForm? paired effect
      have named : control = .next ∨ ∃ name, control = .toLabel name :=
        passes.imp_right fun ⟨name, _, toLabel⟩ => ⟨name, toLabel⟩
      rcases transfer_agrees named sameLabels with
        ⟨passed, passed', transferred, transferred'⟩ | ⟨error, failed, failed'⟩
      · obtain ⟨state, status⟩ := compactDoes.1 passed transferred
        obtain ⟨state', status'⟩ := expandedDoes.1 passed' transferred'
        refine ⟨state'.trans state.symm, Or.inr ⟨control, passes, ?_, ?_⟩⟩
        · rw [compactProgram, transferred, status]
        · rw [expandedProgram, transferred', status']
      · obtain ⟨state, here, status⟩ := compactDoes.2 error failed
        obtain ⟨state', there, status'⟩ := expandedDoes.2 error failed'
        exact ⟨state'.trans state.symm, Or.inl ⟨error, here, there, status, status'⟩⟩

/-- A checked instruction with a stack form does in every state what its expansion does.
A machine before the instruction and a machine before the expansion, in the same state
and with the same labels, come to the same: equal frames, stacks and streams, and
either the same error or control passed in the same way.  The instructions of the
expansion are checked themselves. -/
theorem stack_form_agrees {instruction : Instruction} (passed : instruction.IsChecked)
    {stackForm : Opcode} (paired : instruction.opcode.stackForm? = some stackForm)
    {sequence : List Instruction}
    (spelled : sequence.map (fun each => (each.opcode, each.operands)) =
      stackForm.expansion instruction.operands)
    {compact expanded : Machine} {position start : Nat}
    (compactStands : compact.StandsAt position [instruction])
    (expandedStands : expanded.StandsAt start sequence)
    (sameState : expanded.state = compact.state)
    (sameLabels : ∀ name,
      expanded.program.labels.contains name = compact.program.labels.contains name) :
    (∀ each ∈ sequence, each.IsChecked) ∧
      SameOutcome instruction position compact.step (start + sequence.length - 1)
        (step^[sequence.length] expanded) := by
  have expands : Expands instruction compact.program sequence := by
    rcases Opcode.role_of_stackForm? paired with
      ⟨operation, into, onStack⟩ | ⟨operation, into, onStack⟩ | ⟨equal, named, onStack⟩
    · exact expands_binary passed into onStack spelled compact.program
    · exact expands_unary passed into onStack spelled compact.program
    · exact expands_jumpIf passed named onStack spelled compact.program
  obtain ⟨action, executes, does⟩ := expands.does
  have expandedDoes := does expanded start sameLabels expandedStands
  exact ⟨expands.areChecked, sameOutcome_of_does paired compactStands
    (executes (compact.siteAt position) rfl) expandedDoes sameState sameLabels⟩

/-- An addition whose second operand is not defined leaves the first one on the operand
stack, and so does its expansion. -/
theorem stack_form_agrees_undefined_operand :
    let instruction : Instruction :=
      ⟨1, .add, [.var ⟨.global, "x"⟩, .literal (.int 7), .var ⟨.global, "y"⟩]⟩
    let sequence : List Instruction :=
      [⟨1, .pushs, [.literal (.int 7)]⟩, ⟨2, .pushs, [.var ⟨.global, "y"⟩]⟩, ⟨3, .adds, []⟩,
        ⟨4, .pops, [.var ⟨.global, "x"⟩]⟩]
    let compact := start ⟨[instruction], .empty⟩ (.ofBytes []) .unlimited .unlimited true none
    let expanded := start ⟨sequence, .empty⟩ (.ofBytes []) .unlimited .unlimited true none
    instruction.IsChecked ∧ compact.StandsAt 0 [instruction] ∧ expanded.StandsAt 0 sequence ∧
      (∀ each ∈ sequence, each.IsChecked) ∧
      SameOutcome instruction 0 compact.step 3 (step^[4] expanded) ∧
      (step^[4] expanded).state.operands = [.int 7] := by
  intro instruction sequence compact expanded
  have passed : instruction.IsChecked := rfl
  have compactStands : compact.StandsAt 0 [instruction] := ⟨rfl, List.prefix_rfl⟩
  have expandedStands : expanded.StandsAt 0 sequence := ⟨rfl, List.prefix_rfl⟩
  have spelled : sequence.map (fun each => (each.opcode, each.operands)) =
      Opcode.expansion .adds instruction.operands := rfl
  obtain ⟨areChecked, outcome⟩ := stack_form_agrees passed rfl spelled compactStands
    expandedStands rfl fun _ => rfl
  exact ⟨passed, compactStands, expandedStands, areChecked, outcome, rfl⟩

end Machine
end FrameMachine
