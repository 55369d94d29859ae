import FrameMachine.Program
import FrameMachine.Proofs.Lookup

namespace FrameMachine

/-!
# Labels

The table of labels is collected in one pass over the instructions, with an error at the
first name that is already in it.  The order of the pass makes no difference to whether
there is such a name: the pass succeeds exactly if no two instructions define one label.
Nor does it make a difference to what the table says afterwards.  A label is found exactly
at the position of the instruction that defines it, and there are as many entries as
instructions that define one.
-/

/-- The instruction defines a label of this name. -/
def Instruction.DefinesLabel (instruction : Instruction) (name : String) : Prop :=
  instruction.opcode = .label ∧ instruction.labelAt 0 = .ok name

/-- The instruction has a name if it is a label. -/
def Instruction.IsNamed (instruction : Instruction) : Prop :=
  instruction.opcode = .label → ∃ name, instruction.labelAt 0 = .ok name

/-- No label is defined by both instructions. -/
def Instruction.LabelsDiffer (first second : Instruction) : Prop :=
  ∀ name, first.DefinesLabel name → ¬second.DefinesLabel name

/-- An instruction defines at most one label, so only that one matters. -/
theorem Instruction.labelsDiffer_iff {first second : Instruction} {name : String}
    (defined : first.DefinesLabel name) :
    first.LabelsDiffer second ↔ ¬second.DefinesLabel name := by
  constructor
  · intro differ
    exact differ name defined
  · intro undefined other alsoDefined
    have same : name = other := Except.ok.inj (defined.2.symm.trans alsoDefined.2)
    exact same ▸ undefined

namespace LabelTable

theorem find?_cons (table : LabelTable) (name other : String) (position : Nat) :
    find? ⟨(name, position) :: table.entries⟩ other =
      if other = name then some position else table.find? other :=
  Lookup.lookup_cons_eq_ite table.entries name position other

theorem contains_cons (table : LabelTable) (name other : String) (position : Nat) :
    contains ⟨(name, position) :: table.entries⟩ other = false ↔
      other ≠ name ∧ table.contains other = false := by
  unfold contains
  rw [find?_cons]
  by_cases same : other = name <;> simp [same]

theorem contains_eq_false_iff {table : LabelTable} {name : String} :
    table.contains name = false ↔ table.find? name = none := by
  rw [contains, Option.isSome_eq_false_iff, Option.isNone_iff_eq_none]

theorem resolve_eq_ok_iff {table : LabelTable} {name : String} {position : Nat} :
    table.resolve name = .ok position ↔ table.find? name = some position := by
  unfold resolve
  cases table.find? name <;> simp

/-- A name is in the table exactly if it has a position. -/
theorem contains_iff_exists_resolve {table : LabelTable} {name : String} :
    table.contains name = true ↔ ∃ position, table.resolve name = .ok position := by
  simp only [resolve_eq_ok_iff]
  exact Option.isSome_iff_exists

/-- A new name is kept from the instructions that follow. -/
theorem fresh_cons_iff {table : LabelTable} {position : Nat} {name : String}
    {instruction : Instruction} (defined : instruction.DefinesLabel name)
    (rest : List Instruction) :
    (∀ later ∈ rest, ∀ other, later.DefinesLabel other →
      contains ⟨(name, position) :: table.entries⟩ other = false) ↔
    (∀ later ∈ rest, instruction.LabelsDiffer later) ∧
      ∀ later ∈ rest, ∀ other, later.DefinesLabel other → table.contains other = false := by
  constructor
  · intro fresh
    constructor
    · intro later member
      rw [Instruction.labelsDiffer_iff defined]
      intro alsoDefined
      have different := ((contains_cons ..).mp (fresh later member name alsoDefined)).1
      exact different rfl
    · intro later member other alsoDefined
      exact ((contains_cons ..).mp (fresh later member other alsoDefined)).2
  · rintro ⟨differ, absent⟩ later member other alsoDefined
    refine (contains_cons ..).mpr ⟨?_, absent later member other alsoDefined⟩
    intro same
    exact (Instruction.labelsDiffer_iff defined).mp (differ later member) (same ▸ alsoDefined)

/-- The table can be collected exactly if every label has a name, no two labels have the
same one, and none has one that was there before. -/
theorem exists_collect_iff {table : LabelTable} {position : Nat}
    {instructions : List Instruction} :
    (∃ labels, collect table position instructions = .ok labels) ↔
      (∀ instruction ∈ instructions, instruction.IsNamed) ∧
      instructions.Pairwise Instruction.LabelsDiffer ∧
      ∀ instruction ∈ instructions, ∀ name, instruction.DefinesLabel name →
        table.contains name = false := by
  induction instructions generalizing table position with
  | nil => simp [collect]
  | cons instruction rest inductionHypothesis =>
      rw [collect, List.forall_mem_cons, List.pairwise_cons, List.forall_mem_cons]
      by_cases isLabel : instruction.opcode = .label
      · rw [if_pos isLabel]
        cases named : instruction.labelAt 0 with
        | error error =>
            have nameless : ¬instruction.IsNamed := by
              intro isNamed
              rcases isNamed isLabel with ⟨name, found⟩
              cases named.symm.trans found
            simp [nameless]
        | ok name =>
            have defined : instruction.DefinesLabel name := ⟨isLabel, named⟩
            by_cases present : table.contains name = true
            · have refused : ¬∀ other, instruction.DefinesLabel other →
                  table.contains other = false := by
                intro absent
                rw [absent name defined] at present
                cases present
              simp [present, refused]
            · have isNamed : instruction.IsNamed := fun _ => ⟨name, named⟩
              have absent : ∀ other, instruction.DefinesLabel other →
                  table.contains other = false := by
                intro other alsoDefined
                have same : name = other := Except.ok.inj (named.symm.trans alsoDefined.2)
                exact same ▸ Bool.eq_false_iff.mpr present
              simp only [if_neg present]
              rw [inductionHypothesis, fresh_cons_iff defined, and_iff_right isNamed,
                and_iff_right absent]
              constructor
              · rintro ⟨allNamed, differ, first, old⟩
                exact ⟨allNamed, ⟨first, differ⟩, old⟩
              · rintro ⟨allNamed, ⟨first, differ⟩, old⟩
                exact ⟨allNamed, differ, first, old⟩
      · have undefined : ∀ name, ¬instruction.DefinesLabel name :=
          fun _ defined => isLabel defined.1
        have isNamed : instruction.IsNamed := fun here => absurd here isLabel
        have differs : ∀ later ∈ rest, instruction.LabelsDiffer later :=
          fun _ _ name defined => absurd defined (undefined name)
        rw [if_neg isLabel, inductionHypothesis, and_iff_right isNamed, and_iff_right differs,
          and_iff_right fun name defined => absurd defined (undefined name)]

/-- If every label has a name, collecting the table fails only for a name that is there
twice. -/
theorem collect_error {table : LabelTable} {position : Nat} {instructions : List Instruction}
    (named : ∀ instruction ∈ instructions, instruction.IsNamed) {error : Error}
    (failed : collect table position instructions = .error error) :
    error.kind = .duplicateLabel := by
  induction instructions generalizing table position with
  | nil => cases failed
  | cons instruction rest inductionHypothesis =>
      rcases List.forall_mem_cons.mp named with ⟨isNamed, restNamed⟩
      rw [collect] at failed
      by_cases isLabel : instruction.opcode = .label
      · rcases isNamed isLabel with ⟨name, found⟩
        simp only [if_pos isLabel, found] at failed
        split at failed
        · cases failed
          rfl
        · exact inductionHypothesis restNamed failed
      · rw [if_neg isLabel] at failed
        exact inductionHypothesis restNamed failed

/-! ## The collected table -/

/-- The label of this name stands at a place in the list, counted from the given position on. -/
def Stands (instructions : List Instruction) (position : Nat) (name : String) (target : Nat) :
    Prop :=
  ∃ index instruction, target = position + index ∧ instructions[index]? = some instruction ∧
    instruction.DefinesLabel name

theorem stands_cons {instruction : Instruction} {rest : List Instruction} {position target : Nat}
    {name : String} :
    Stands (instruction :: rest) position name target ↔
      target = position ∧ instruction.DefinesLabel name ∨
        Stands rest (position + 1) name target := by
  constructor
  · rintro ⟨index, found, place, here, defined⟩
    cases index with
    | zero =>
        rw [List.getElem?_cons_zero, Option.some.injEq] at here
        exact Or.inl ⟨place, here ▸ defined⟩
    | succ index =>
        rw [List.getElem?_cons_succ] at here
        exact Or.inr ⟨index, found, by omega, here, defined⟩
  · rintro (⟨place, defined⟩ | ⟨index, found, place, here, defined⟩)
    · exact ⟨0, instruction, place, rfl, defined⟩
    · exact ⟨index + 1, found, by omega, here, defined⟩

/-- Collecting goes on with the same table, or with one entry more for a new label. -/
theorem collect_cons {table labels : LabelTable} {position : Nat} {instruction : Instruction}
    {rest : List Instruction}
    (collected : collect table position (instruction :: rest) = .ok labels) :
    instruction.opcode ≠ .label ∧ collect table (position + 1) rest = .ok labels ∨
      ∃ name, instruction.DefinesLabel name ∧ table.find? name = none ∧
        collect ⟨(name, position) :: table.entries⟩ (position + 1) rest = .ok labels := by
  rw [collect] at collected
  by_cases isLabel : instruction.opcode = .label
  · rw [if_pos isLabel] at collected
    cases named : instruction.labelAt 0 with
    | error error => simp [named] at collected
    | ok name =>
        cases present : table.contains name with
        | true => simp [named, present] at collected
        | false =>
            simp only [named, present, Bool.false_eq_true, if_false] at collected
            exact Or.inr ⟨name, ⟨isLabel, named⟩, contains_eq_false_iff.mp present, collected⟩
  · rw [if_neg isLabel] at collected
    exact Or.inl ⟨isLabel, collected⟩

/-- A collected table has the labels that were there before, and each label of the list at its
place. -/
theorem find?_collect {table labels : LabelTable} {position : Nat}
    {instructions : List Instruction} (collected : collect table position instructions = .ok labels)
    (name : String) (target : Nat) :
    labels.find? name = some target ↔
      table.find? name = some target ∨ Stands instructions position name target := by
  induction instructions generalizing table position with
  | nil =>
      cases collected
      simp [Stands]
  | cons instruction rest inductionHypothesis =>
      rw [stands_cons]
      rcases collect_cons collected with ⟨other, further⟩ | ⟨own, defined, absent, further⟩
      · have undefined : ¬instruction.DefinesLabel name := fun defined => other defined.1
        rw [inductionHypothesis further]
        simp [undefined]
      · have defines : instruction.DefinesLabel name ↔ name = own := by
          constructor
          · intro alsoDefined
            exact Except.ok.inj (alsoDefined.2.symm.trans defined.2)
          · intro same
            exact same ▸ defined
        -- the new entry is the label at hand, and the old table had none of that name
        rw [inductionHypothesis further, find?_cons, defines, ← or_assoc]
        apply or_congr_left
        by_cases same : name = own
        · rw [if_pos same, same, absent, Option.some.injEq]
          simp [eq_comm]
        · rw [if_neg same]
          simp [same]

/-- A collected table has one more entry for each label of the list. -/
theorem size_collect {table labels : LabelTable} {position : Nat}
    {instructions : List Instruction}
    (collected : collect table position instructions = .ok labels) :
    labels.size = table.size + instructions.countP (·.opcode = .label) := by
  induction instructions generalizing table position with
  | nil =>
      cases collected
      rfl
  | cons instruction rest inductionHypothesis =>
      rcases collect_cons collected with ⟨other, further⟩ | ⟨own, defined, -, further⟩
      · rw [inductionHypothesis further, List.countP_cons_of_neg (by simpa using other)]
      · rw [inductionHypothesis further, List.countP_cons_of_pos (by simpa using defined.1)]
        simp only [size, List.length_cons]
        omega

end LabelTable

namespace Program

variable {instructions : List Instruction}

/-- Instructions make a program exactly if every label has a name and no two labels have
the same one. -/
theorem exists_ofInstructions_iff :
    (∃ program, ofInstructions instructions = .ok program) ↔
      (∀ instruction ∈ instructions, instruction.IsNamed) ∧
        instructions.Pairwise Instruction.LabelsDiffer := by
  have collected : (∃ program, ofInstructions instructions = .ok program) ↔
      ∃ labels, LabelTable.empty.collect 0 instructions = .ok labels := by
    unfold ofInstructions
    cases LabelTable.empty.collect 0 instructions <;> simp
  rw [collected, LabelTable.exists_collect_iff]
  constructor
  · rintro ⟨named, differ, -⟩
    exact ⟨named, differ⟩
  · rintro ⟨named, differ⟩
    exact ⟨named, differ, fun _ _ _ _ => rfl⟩

theorem ofInstructions_error (named : ∀ instruction ∈ instructions, instruction.IsNamed)
    {error : Error} (failed : ofInstructions instructions = .error error) :
    error.kind = .duplicateLabel := by
  unfold ofInstructions at failed
  split at failed <;> cases failed
  exact LabelTable.collect_error named ‹_›

/-- The label of this name stands at the position. -/
def LabelAt (program : Program) (name : String) (position : Nat) : Prop :=
  ∃ instruction, program.at? position = some instruction ∧ instruction.DefinesLabel name

/-- The number of instructions that are labels. -/
def labelCount (program : Program) : Nat :=
  program.instructions.countP (·.opcode = .label)

variable {program : Program}

/-- A program holds the instructions that it was made from. -/
theorem instructions_of_ofInstructions (made : ofInstructions instructions = .ok program) :
    program.instructions = instructions := by
  unfold ofInstructions at made
  split at made <;> cases made
  rfl

theorem collect_of_ofInstructions (made : ofInstructions instructions = .ok program) :
    LabelTable.empty.collect 0 program.instructions = .ok program.labels := by
  unfold ofInstructions at made
  split at made <;> cases made
  assumption

/-- A label is resolved to the position where it stands. -/
theorem resolve_eq_ok_iff_labelAt (built : ofInstructions instructions = .ok program)
    (name : String) (position : Nat) :
    program.labels.resolve name = .ok position ↔ program.LabelAt name position := by
  rw [LabelTable.resolve_eq_ok_iff, LabelTable.find?_collect (collect_of_ofInstructions built)]
  simp [LabelTable.Stands, LabelTable.empty, LabelTable.find?, LabelAt, at?]

theorem size_labels (built : ofInstructions instructions = .ok program) :
    program.labels.size = program.labelCount := by
  rw [LabelTable.size_collect (collect_of_ofInstructions built)]
  exact Nat.zero_add _

theorem mem_labelName_iff {instruction : Instruction} {name : String} :
    (if instruction.opcode = .label then (instruction.labelAt 0).toOption else none) = some name ↔
      instruction.DefinesLabel name := by
  unfold Instruction.DefinesLabel
  by_cases isLabel : instruction.opcode = .label
  · cases instruction.labelAt 0 <;> simp [isLabel, Except.toOption]
  · simp [isLabel]

/-- Each label of a program that was built has one name in the list of names. -/
theorem length_labelNames (built : ofInstructions instructions = .ok program) :
    program.labelNames.length = program.labelCount := by
  rcases exists_ofInstructions_iff.mp ⟨program, built⟩ with ⟨named, -⟩
  rw [labelNames, labelCount, instructions_of_ofInstructions built,
    List.length_filterMap_eq_countP]
  apply List.countP_congr
  intro instruction member
  by_cases isLabel : instruction.opcode = .label
  · rcases named instruction member isLabel with ⟨name, found⟩
    simp [isLabel, found, Except.toOption]
  · simp [isLabel]

theorem nodup_labelNames (built : ofInstructions instructions = .ok program) :
    program.labelNames.Nodup := by
  rcases exists_ofInstructions_iff.mp ⟨program, built⟩ with ⟨-, differ⟩
  rw [labelNames, instructions_of_ofInstructions built, List.Nodup, List.pairwise_filterMap]
  refine differ.imp ?_
  intro first second differs name defined other alsoDefined same
  exact differs name (mem_labelName_iff.mp defined) (same ▸ mem_labelName_iff.mp alsoDefined)

end Program
end FrameMachine
