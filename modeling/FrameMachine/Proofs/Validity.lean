import FrameMachine.Proofs.Checked
import FrameMachine.Proofs.Labels
import FrameMachine.Proofs.Spelling

namespace FrameMachine
namespace Listing

/-!
# Valid listings

A listing becomes a program if its order numbers are in range and distinct, if each of its
entries denotes an instruction, and if no two of them define the same label.  These three
conditions are stated here without regard to the order in which assembly looks at things,
and it is shown that assembly decides them.  A listing that fails the first or the second
is malformed, and one that fails only the third has a duplicate label.

A program that was assembled has the instructions that the entries denote, each once, by
increasing order number.  The checks that assembly repeats after it has read an entry never
fail.
-/

/-! ## What it means to be valid -/

/-- The order number of the entry is in range. -/
def Entry.InRange (entry : Entry) : Prop :=
  1 ≤ entry.order.toInt ∧ entry.order.toInt ≤ maxOrder

/-- The opcode and the operands that an entry spells: there are as many arguments as the
opcode has slots, each denotes an operand, and the operand fits the slot. -/
structure Entry.Spells (entry : Entry) (opcode : Opcode) (operands : List Operand) : Prop where
  named : opcode.SpelledBy entry.opcode.toList
  denoted : List.Forall₂ Argument.Denotes entry.arguments operands
  fits : List.Forall₂ (fun operand slot => operand.fits slot = true) operands opcode.signature

/-- The instruction that an entry denotes. -/
structure Entry.Denotes (entry : Entry) (instruction : Instruction) : Prop where
  order : (instruction.order : Int) = entry.order.toInt
  spells : entry.Spells instruction.opcode instruction.operands

/-- The entry defines a label of this name. -/
def Entry.DefinesLabel (entry : Entry) (name : String) : Prop :=
  entry.Spells .label [.label name]

/-- No label is defined by both entries. -/
def Entry.LabelsDiffer (first second : Entry) : Prop :=
  ∀ name, first.DefinesLabel name → ¬second.DefinesLabel name

/-- Every order number is in range, and none occurs twice. -/
structure OrdersValid (listing : Listing) : Prop where
  range : ∀ entry ∈ listing.entries, entry.InRange
  distinct : listing.entries.Pairwise fun first second => first.order ≠ second.order

/-- Every entry spells an opcode with its operands. -/
def EntriesValid (listing : Listing) : Prop :=
  ∀ entry ∈ listing.entries, ∃ opcode operands, entry.Spells opcode operands

/-- No two entries define the same label. -/
def LabelsDistinct (listing : Listing) : Prop :=
  listing.entries.Pairwise Entry.LabelsDiffer

/-! ## Order numbers -/

theorem checkOrders_eq_ok_iff {seen : List Int64} {entries : List Entry} :
    checkOrders seen entries = .ok () ↔
      (∀ entry ∈ entries, entry.InRange) ∧
      entries.Pairwise (fun first second => first.order ≠ second.order) ∧
      ∀ entry ∈ entries, entry.order ∉ seen := by
  induction entries generalizing seen with
  | nil => simp [checkOrders]
  | cons entry rest inductionHypothesis =>
      rw [checkOrders, List.forall_mem_cons, List.pairwise_cons, List.forall_mem_cons]
      by_cases outside : entry.order.toInt ≤ 0 ∨ maxOrder < entry.order.toInt
      · have refused : ¬entry.InRange := by
          rintro ⟨positive, bound⟩
          omega
        simp [outside, refused]
      · have range : entry.InRange := by
          unfold Entry.InRange
          omega
        rw [if_neg outside]
        by_cases repeated : entry.order ∈ seen
        · simp [repeated]
        · have fresh : (∀ later ∈ rest, later.order ∉ entry.order :: seen) ↔
              (∀ later ∈ rest, entry.order ≠ later.order) ∧
                ∀ later ∈ rest, later.order ∉ seen := by
            simp only [List.mem_cons, not_or, forall_and, ne_comm]
          have unseen : seen.contains entry.order ≠ true :=
            fun member => repeated (List.contains_iff_mem.mp member)
          rw [if_neg unseen, inductionHypothesis, fresh, and_iff_right range,
            and_iff_right repeated]
          constructor
          · rintro ⟨allInRange, distinct, first, old⟩
            exact ⟨allInRange, ⟨first, distinct⟩, old⟩
          · rintro ⟨allInRange, ⟨first, distinct⟩, old⟩
            exact ⟨allInRange, distinct, first, old⟩

theorem checkOrders_error {seen : List Int64} {entries : List Entry} {error : Error}
    (failed : checkOrders seen entries = .error error) : error.kind = .malformedProgram := by
  induction entries generalizing seen with
  | nil => cases failed
  | cons entry rest inductionHypothesis =>
      rw [checkOrders] at failed
      split at failed
      · cases failed
        rfl
      · split at failed
        · cases failed
          rfl
        · exact inductionHypothesis failed

/-- Sorting only arranges the entries. -/
theorem sorted_perm (entries : List Entry) : (sorted entries).Perm entries :=
  List.mergeSort_perm entries _

theorem pairwise_sorted (entries : List Entry) :
    (sorted entries).Pairwise fun first second => first.order.toInt ≤ second.order.toInt := by
  have arranged : (sorted entries).Pairwise fun first second =>
      decide (first.order.toInt ≤ second.order.toInt) = true :=
    List.pairwise_mergeSort (fun first second third => by simpa using Int.le_trans)
      (fun first second => by simpa using Int.le_total _ _) entries
  exact arranged.imp of_decide_eq_true

/-- Distinct order numbers are sorted strictly. -/
theorem OrdersValid.pairwise_sorted {listing : Listing} (valid : listing.OrdersValid) :
    (sorted listing.entries).Pairwise fun first second =>
      first.order.toInt < second.order.toInt := by
  have distinct : (sorted listing.entries).Pairwise fun first second =>
      first.order ≠ second.order :=
    ((sorted_perm listing.entries).pairwise_iff Ne.symm).mpr valid.distinct
  refine (Listing.pairwise_sorted listing.entries).imp₂ (fun _ _ ordered different => ?_) distinct
  have apart := mt Int64.toInt_inj.mp different
  omega

/-- Distinct order numbers leave only one way to sort the entries. -/
theorem OrdersValid.sorted_eq {listing : Listing} (valid : listing.OrdersValid)
    {arranged : List Entry} (same : arranged.Perm listing.entries)
    (increasing : arranged.Pairwise fun first second => first.order.toInt < second.order.toInt) :
    sorted listing.entries = arranged := by
  refine List.Perm.eq_of_pairwise ?_ valid.pairwise_sorted increasing
    ((sorted_perm listing.entries).trans same.symm)
  intro first second _ _ before behind
  exact absurd behind (Int.lt_asymm before)

theorem Entry.InRange.toNat_order {entry : Entry} (range : entry.InRange) :
    (entry.order.toInt.toNat : Int) = entry.order.toInt :=
  Int.toNat_of_nonneg (Int.le_trans (by decide) range.1)

/-- The order number of an entry in range has 32 bits. -/
theorem Entry.InRange.order? {entry : Entry} (range : entry.InRange) :
    entry.order? = some entry.order.toInt.toNat := by
  unfold Entry.order?
  rw [if_pos]
  exact ⟨Int.le_trans (by decide) range.1, range.2⟩

/-! ## Entries -/

/-- Arguments never denote the placeholder. -/
theorem placeholder_not_mem {arguments : List Argument} {operands : List Operand}
    (denoted : List.Forall₂ Argument.Denotes arguments operands) :
    .literal .uninitialized ∉ operands := by
  induction denoted with
  | nil => exact List.not_mem_nil
  | cons denotes _ inductionHypothesis =>
      refine List.not_mem_cons_of_ne_of_not_mem ?_ inductionHypothesis
      cases denotes <;> simp

theorem misfit?_of_fits {operands : List Operand} {slots : List Slot}
    (fits : List.Forall₂ (fun operand slot => operand.fits slot = true) operands slots)
    (start : Nat) : Instruction.misfit? start operands slots = none := by
  induction fits generalizing start with
  | nil => rfl
  | cons here _ inductionHypothesis =>
      rw [Instruction.misfit?, if_pos here]
      exact inductionHypothesis (start + 1)

/-- Operands that arguments give to the slots of an opcode pass the check of an
instruction. -/
theorem checked_of_denotes {arguments : List Argument} {opcode : Opcode} {operands : List Operand}
    (denoted : List.Forall₂ Argument.Denotes arguments operands)
    (fits : List.Forall₂ (fun operand slot => operand.fits slot = true) operands opcode.signature)
    (order : Nat) : Instruction.checked order opcode operands = .ok ⟨order, opcode, operands⟩ :=
  Instruction.checked_eq_ok_iff.mpr
    ⟨rfl, fits.length_eq, misfit?_of_fits fits 0, placeholder_not_mem denoted⟩

/-- Reading an entry in range finds the instruction that it denotes. -/
theorem Entry.InRange.instruction_eq_ok_iff {entry : Entry} (range : entry.InRange)
    {instruction : Instruction} :
    entry.instruction = .ok instruction ↔ entry.Denotes instruction := by
  unfold Entry.instruction
  rw [range.order?]
  constructor
  · intro made
    cases found : Opcode.ofName? (Text.trim entry.opcode.toList) with
    | none => simp [found] at made
    | some opcode =>
        simp only [found] at made
        by_cases length : entry.arguments.length = opcode.signature.length
        · rw [if_neg (not_not_intro length)] at made
          cases given : Argument.operands entry.arguments opcode.signature with
          | error error => simp [given] at made
          | ok operands =>
              simp only [given] at made
              rcases Instruction.checked_eq_ok_iff.mp made with ⟨rfl, -⟩
              rcases (Argument.operands_eq_ok_iff length).mp given with ⟨denoted, fits⟩
              exact ⟨range.toNat_order, Opcode.ofName?_trim_eq_some_iff.mp found, denoted, fits⟩
        · simp [length] at made
  · rintro ⟨order, spelled, denoted, fits⟩
    have length : entry.arguments.length = instruction.opcode.signature.length :=
      denoted.length_eq.trans fits.length_eq
    have given := (Argument.operands_eq_ok_iff length).mpr ⟨denoted, fits⟩
    have same : entry.order.toInt.toNat = instruction.order := by
      rw [← order, Int.toNat_natCast]
    simp only [Opcode.ofName?_trim_eq_some_iff.mpr spelled, length, ne_eq, not_true_eq_false,
      if_false, given, same]
    exact checked_of_denotes denoted fits instruction.order

theorem checked_error {order : Nat} {opcode : Opcode} {operands : List Operand} {error : Error}
    (failed : Instruction.checked order opcode operands = .error error) :
    error.kind = .malformedProgram := by
  unfold Instruction.checked at failed
  split at failed
  · cases failed
    rfl
  · split at failed
    · cases failed
      rfl
    · split at failed <;> cases failed
      rfl

/-- An entry that cannot be read makes the program malformed. -/
theorem Entry.instruction_error {entry : Entry} {error : Error}
    (failed : entry.instruction = .error error) : error.kind = .malformedProgram := by
  unfold Entry.instruction at failed
  split at failed
  · cases failed
    rfl
  · split at failed
    · cases failed
      rfl
    · split at failed
      · split at failed
        · exact checked_error failed
        · cases failed
          rfl
      · cases failed
        exact Argument.operands_error ‹_›

/-- An entry spells at most one opcode with its operands. -/
theorem Entry.Spells.unique {entry : Entry} {opcode other : Opcode} {operands others : List Operand}
    (one : entry.Spells opcode operands) (another : entry.Spells other others) :
    opcode = other ∧ operands = others := by
  constructor
  · have found := Opcode.ofName?_trim_eq_some_iff.mpr one.named
    have alsoFound := Opcode.ofName?_trim_eq_some_iff.mpr another.named
    exact Option.some.inj (found.symm.trans alsoFound)
  · refine List.right_unique_forall₂' ?_ one.denoted another.denoted
    intro argument operand alsoOperand denotes alsoDenotes
    have declared := Argument.declared_eq_ok_iff.mpr denotes
    exact Except.ok.inj (declared.symm.trans (Argument.declared_eq_ok_iff.mpr alsoDenotes))

/-! ## All entries together -/

/-- Reading entries one by one is reading each of them. -/
theorem instructions_eq_ok_iff {entries : List Entry} {made : List Instruction} :
    instructions entries = .ok made ↔
      List.Forall₂ (fun entry instruction => entry.instruction = .ok instruction) entries made := by
  induction entries generalizing made with
  | nil => cases made <;> simp [instructions]
  | cons entry entries inductionHypothesis =>
      rw [instructions]
      constructor
      · intro read
        cases first : entry.instruction with
        | error error => simp [first] at read
        | ok instruction =>
            cases behind : instructions entries with
            | error error => simp [first, behind] at read
            | ok rest =>
                simp only [first, behind, Except.ok.injEq] at read
                subst read
                exact .cons first (inductionHypothesis.mp behind)
      · intro read
        cases read with
        | cons first rest => simp only [first, inductionHypothesis.mpr rest]

theorem instructions_error {entries : List Entry} {error : Error}
    (failed : instructions entries = .error error) : error.kind = .malformedProgram := by
  induction entries with
  | nil => cases failed
  | cons entry entries inductionHypothesis =>
      rw [instructions] at failed
      split at failed
      · split at failed <;> cases failed
        exact inductionHypothesis ‹_›
      · cases failed
        exact Entry.instruction_error ‹_›

/-- Entries in range are read as the instructions that they denote. -/
theorem instructions_eq_ok_iff_denotes {entries : List Entry}
    (range : ∀ entry ∈ entries, entry.InRange) {made : List Instruction} :
    instructions entries = .ok made ↔ List.Forall₂ Entry.Denotes entries made := by
  rw [instructions_eq_ok_iff]
  constructor
  · intro read
    exact ((List.forall₂_and_left ..).mpr ⟨range, read⟩).imp fun _ _ both =>
      both.1.instruction_eq_ok_iff.mp both.2
  · intro denoted
    exact ((List.forall₂_and_left ..).mpr ⟨range, denoted⟩).imp fun _ _ both =>
      both.1.instruction_eq_ok_iff.mpr both.2

section Related

variable {α β : Type} {related : α → β → Prop} {left : List α} {right : List β}

theorem exists_forall₂_iff :
    (∃ right, List.Forall₂ related left right) ↔ ∀ a ∈ left, ∃ b, related a b := by
  induction left with
  | nil => simp
  | cons a left inductionHypothesis =>
      rw [List.forall_mem_cons, ← inductionHypothesis]
      constructor
      · rintro ⟨right, _ | ⟨here, rest⟩⟩
        exact ⟨⟨_, here⟩, _, rest⟩
      · rintro ⟨⟨b, here⟩, right, rest⟩
        exact ⟨b :: right, .cons here rest⟩

theorem forall_mem_iff_of_forall₂ (all : List.Forall₂ related left right) {first : α → Prop}
    {second : β → Prop} (same : ∀ a b, related a b → (first a ↔ second b)) :
    (∀ a ∈ left, first a) ↔ ∀ b ∈ right, second b := by
  induction all with
  | nil => simp
  | cons here _ inductionHypothesis =>
      rw [List.forall_mem_cons, List.forall_mem_cons, same _ _ here, inductionHypothesis]

/-- What holds between any two elements of a list holds between those that are related to
them. -/
theorem pairwise_iff_of_forall₂ (all : List.Forall₂ related left right) {first : α → α → Prop}
    {second : β → β → Prop}
    (same : ∀ a b a' b', related a b → related a' b' → (first a a' ↔ second b b')) :
    left.Pairwise first ↔ right.Pairwise second := by
  induction all with
  | nil => simp
  | cons here rest inductionHypothesis =>
      rw [List.pairwise_cons, List.pairwise_cons, inductionHypothesis,
        forall_mem_iff_of_forall₂ rest fun _ _ there => same _ _ _ _ here there]

end Related

/-! ## Labels of entries -/

theorem Entry.LabelsDiffer.symm {first second : Entry} (differ : first.LabelsDiffer second) :
    second.LabelsDiffer first := by
  intro name defined alsoDefined
  exact differ name alsoDefined defined

theorem Entry.Denotes.definesLabel_iff {entry : Entry} {instruction : Instruction}
    (denotes : entry.Denotes instruction) {name : String} :
    entry.DefinesLabel name ↔ instruction.DefinesLabel name := by
  rcases instruction with ⟨order, opcode, operands⟩
  have spells : entry.Spells opcode operands := denotes.spells
  constructor
  · intro defined
    rcases spells.unique defined with ⟨rfl, rfl⟩
    exact ⟨rfl, rfl⟩
  · rintro ⟨isLabel, named⟩
    have isLabel : opcode = .label := isLabel
    have first : operands[0]? = some (.label name) := Instruction.labelAt_eq_ok_iff.mp named
    subst isLabel
    have single : operands = [.label name] := by
      have length : operands.length = 1 := spells.fits.length_eq
      rcases List.length_eq_one_iff.mp length with ⟨operand, rfl⟩
      rw [Option.some.inj first]
    rw [single] at spells
    exact spells

/-- Two entries define different labels if their instructions do. -/
theorem Entry.Denotes.labelsDiffer_iff {first second : Entry} {one other : Instruction}
    (denotes : first.Denotes one) (alsoDenotes : second.Denotes other) :
    first.LabelsDiffer second ↔ one.LabelsDiffer other := by
  unfold Entry.LabelsDiffer Instruction.LabelsDiffer
  simp only [denotes.definesLabel_iff, alsoDenotes.definesLabel_iff]

theorem isNamed_of_isChecked {instruction : Instruction} (passed : instruction.IsChecked) :
    instruction.IsNamed := by
  intro isLabel
  have declared : instruction.opcode.signature[0]? = some .label := by
    rw [isLabel]
    rfl
  exact passed.provides declared

/-! ## Assembly -/

variable {listing : Listing}

theorem checkOrders_eq_ok_iff_valid :
    checkOrders [] listing.entries = .ok () ↔ listing.OrdersValid := by
  rw [checkOrders_eq_ok_iff]
  constructor
  · rintro ⟨range, distinct, -⟩
    exact ⟨range, distinct⟩
  · rintro ⟨range, distinct⟩
    exact ⟨range, distinct, fun _ _ => List.not_mem_nil⟩

theorem OrdersValid.range_sorted (orders : listing.OrdersValid) :
    ∀ entry ∈ sorted listing.entries, entry.InRange :=
  fun entry member => orders.range entry ((sorted_perm listing.entries).mem_iff.mp member)

/-- With valid order numbers, assembly reads the entries as they are sorted. -/
theorem OrdersValid.assemble_eq (orders : listing.OrdersValid) :
    listing.assemble =
      match instructions (sorted listing.entries) with
      | .ok made => Program.ofInstructions made
      | .error error => .error error := by
  have passed : checkOrders [] listing.entries = .ok () := checkOrders_eq_ok_iff_valid.mpr orders
  unfold assemble
  cases instructions (sorted listing.entries) with
  | ok made => simp only [passed]
  | error error => simp only [passed]

/-- An entry in range denotes an instruction if it spells one. -/
theorem Entry.InRange.exists_denotes_iff {entry : Entry} (range : entry.InRange) :
    (∃ instruction, entry.Denotes instruction) ↔
      ∃ opcode operands, entry.Spells opcode operands := by
  constructor
  · rintro ⟨instruction, denotes⟩
    exact ⟨instruction.opcode, instruction.operands, denotes.spells⟩
  · rintro ⟨opcode, operands, spells⟩
    exact ⟨⟨entry.order.toInt.toNat, opcode, operands⟩, range.toNat_order, spells⟩

/-- The instructions of valid entries, in the order of execution. -/
theorem OrdersValid.exists_instructions_iff (orders : listing.OrdersValid) :
    (∃ made, instructions (sorted listing.entries) = .ok made) ↔ listing.EntriesValid := by
  simp only [instructions_eq_ok_iff_denotes orders.range_sorted]
  rw [exists_forall₂_iff]
  unfold EntriesValid
  simp only [(sorted_perm listing.entries).mem_iff]
  exact forall₂_congr fun entry member => (orders.range entry member).exists_denotes_iff

theorem OrdersValid.labelsDistinct_iff (orders : listing.OrdersValid) {made : List Instruction}
    (read : instructions (sorted listing.entries) = .ok made) :
    listing.LabelsDistinct ↔ made.Pairwise Instruction.LabelsDiffer := by
  have denoted := (instructions_eq_ok_iff_denotes orders.range_sorted).mp read
  unfold LabelsDistinct
  rw [← (sorted_perm listing.entries).pairwise_iff Entry.LabelsDiffer.symm]
  exact pairwise_iff_of_forall₂ denoted fun _ _ _ _ here there => here.labelsDiffer_iff there

theorem isNamed_of_instructions {entries : List Entry} {made : List Instruction}
    (read : instructions entries = .ok made) :
    ∀ instruction ∈ made, instruction.IsNamed :=
  fun instruction member => isNamed_of_isChecked (instructions_isChecked read instruction member)

theorem exists_assemble (orders : listing.OrdersValid) (entries : listing.EntriesValid)
    (labels : listing.LabelsDistinct) : ∃ program, listing.assemble = .ok program := by
  rcases orders.exists_instructions_iff.mpr entries with ⟨made, read⟩
  rw [orders.assemble_eq, read]
  exact Program.exists_ofInstructions_iff.mpr
    ⟨isNamed_of_instructions read, (orders.labelsDistinct_iff read).mp labels⟩

theorem assemble_error_of_labels (orders : listing.OrdersValid) (entries : listing.EntriesValid)
    (repeated : ¬listing.LabelsDistinct) :
    ∃ error, listing.assemble = .error error ∧ error.kind = .duplicateLabel := by
  rcases orders.exists_instructions_iff.mpr entries with ⟨made, read⟩
  rw [orders.assemble_eq, read]
  change ∃ error, Program.ofInstructions made = .error error ∧ error.kind = .duplicateLabel
  cases built : Program.ofInstructions made with
  | ok program =>
      have differ := (Program.exists_ofInstructions_iff.mp ⟨program, built⟩).2
      exact absurd ((orders.labelsDistinct_iff read).mpr differ) repeated
  | error error =>
      exact ⟨error, rfl, Program.ofInstructions_error (isNamed_of_instructions read) built⟩

theorem assemble_error_of_flaw (invalid : ¬(listing.OrdersValid ∧ listing.EntriesValid)) :
    ∃ error, listing.assemble = .error error ∧ error.kind = .malformedProgram := by
  by_cases orders : listing.OrdersValid
  · rw [orders.assemble_eq]
    cases read : instructions (sorted listing.entries) with
    | ok made => exact absurd ⟨orders, orders.exists_instructions_iff.mp ⟨made, read⟩⟩ invalid
    | error error => exact ⟨error, rfl, instructions_error read⟩
  · unfold assemble
    cases checked : checkOrders [] listing.entries with
    | ok _ => exact absurd (checkOrders_eq_ok_iff_valid.mp checked) orders
    | error error => exact ⟨error, rfl, checkOrders_error checked⟩

/-- The three ways in which assembly can end. -/
theorem assemble_cases (listing : Listing) :
    ((listing.OrdersValid ∧ listing.EntriesValid) ∧ listing.LabelsDistinct ∧
      ∃ program, listing.assemble = .ok program) ∨
    ((listing.OrdersValid ∧ listing.EntriesValid) ∧ ¬listing.LabelsDistinct ∧
      ∃ error, listing.assemble = .error error ∧ error.kind = .duplicateLabel) ∨
    (¬(listing.OrdersValid ∧ listing.EntriesValid) ∧
      ∃ error, listing.assemble = .error error ∧ error.kind = .malformedProgram) := by
  by_cases valid : listing.OrdersValid ∧ listing.EntriesValid
  · by_cases labels : listing.LabelsDistinct
    · exact Or.inl ⟨valid, labels, exists_assemble valid.1 valid.2 labels⟩
    · exact Or.inr (Or.inl ⟨valid, labels, assemble_error_of_labels valid.1 valid.2 labels⟩)
  · exact Or.inr (Or.inr ⟨valid, assemble_error_of_flaw valid⟩)

/-- The instructions of an assembled program are those of the sorted entries. -/
theorem instructions_of_assemble {program : Program} (assembled : listing.assemble = .ok program) :
    listing.OrdersValid ∧ instructions (sorted listing.entries) = .ok program.instructions := by
  have orders : listing.OrdersValid := by
    rcases listing.assemble_cases with
      ⟨valid, -⟩ | ⟨valid, -⟩ | ⟨-, error, failed, -⟩
    · exact valid.1
    · exact valid.1
    · cases assembled.symm.trans failed
  refine ⟨orders, ?_⟩
  rw [orders.assemble_eq] at assembled
  cases read : instructions (sorted listing.entries) with
  | error error => simp [read] at assembled
  | ok made =>
      simp only [read] at assembled
      rw [Program.instructions_of_ofInstructions assembled]

/-- Assembly accepts exactly the valid listings.  A listing whose order numbers and entries
are valid but whose labels are not distinct has a duplicate label, and any other listing
that is not valid is malformed.  An assembled program has the instructions that the
entries denote, one for each, by strictly increasing order number.  Once the order numbers
are valid, no entry is refused by the checks behind the reading of its arguments: its order
number has 32 bits, and its operands pass the check of an instruction. -/
theorem assemble_decides_validity (listing : Listing) :
    ((∃ program, listing.assemble = .ok program) ↔
      (listing.OrdersValid ∧ listing.EntriesValid) ∧ listing.LabelsDistinct) ∧
    ((∃ error, listing.assemble = .error error ∧ error.kind = .duplicateLabel) ↔
      (listing.OrdersValid ∧ listing.EntriesValid) ∧ ¬listing.LabelsDistinct) ∧
    ((∃ error, listing.assemble = .error error ∧ error.kind = .malformedProgram) ↔
      ¬(listing.OrdersValid ∧ listing.EntriesValid)) ∧
    (∀ program, listing.assemble = .ok program →
      program.instructions.Pairwise (fun first second => first.order < second.order) ∧
      ∃ arranged : List Entry, arranged.Perm listing.entries ∧
        List.Forall₂ Entry.Denotes arranged program.instructions) ∧
    (checkOrders [] listing.entries = .ok () → ∀ entry ∈ sorted listing.entries,
      entry.order? = some entry.order.toInt.toNat ∧
      ∀ opcode operands order, entry.arguments.length = opcode.signature.length →
        Argument.operands entry.arguments opcode.signature = .ok operands →
        Instruction.checked order opcode operands = .ok ⟨order, opcode, operands⟩) := by
  -- The first three parts are settled by the way in which assembly ends.
  refine (and_assoc.trans (and_congr_right' and_assoc)).mp ⟨?_, ?_, ?_⟩
  · rcases listing.assemble_cases with ⟨valid, labels, program, assembled⟩ |
      ⟨valid, labels, error, failed, kind⟩ | ⟨invalid, error, failed, kind⟩
    · simp only [assembled, valid, labels, Except.ok.injEq, exists_eq', reduceCtorEq, false_and,
        exists_false, and_self, and_false, not_true_eq_false]
    · simp only [failed, kind, valid, labels, Except.error.injEq, exists_eq_left', reduceCtorEq,
        exists_false, and_self, and_false, not_true_eq_false, not_false_eq_true]
    · simp only [failed, kind, invalid, Except.error.injEq, exists_eq_left', reduceCtorEq,
        exists_false, false_and, and_self, not_false_eq_true]
  · intro program assembled
    rcases instructions_of_assemble assembled with ⟨orders, read⟩
    have denoted := (instructions_eq_ok_iff_denotes orders.range_sorted).mp read
    refine ⟨?_, sorted listing.entries, sorted_perm listing.entries, denoted⟩
    refine (pairwise_iff_of_forall₂ denoted fun _ _ _ _ here there => ?_).mp orders.pairwise_sorted
    rw [← here.order, ← there.order, Int.ofNat_lt]
  · intro passed entry member
    have orders := checkOrders_eq_ok_iff_valid.mp passed
    refine ⟨(orders.range_sorted entry member).order?, ?_⟩
    intro opcode operands order length given
    rcases (Argument.operands_eq_ok_iff length).mp given with ⟨denoted, fits⟩
    exact checked_of_denotes denoted fits order

/-- A listing out of order, with blanks around an opcode and letters of either case, and
the same listing with a label twice in place of a variable. -/
theorem assemble_decides_validity_shuffled :
    let shuffled : Listing :=
      ⟨[⟨5, " write ", [⟨"var", "GF@x"⟩]⟩, ⟨1, "DefVar", [⟨"var", "GF@x"⟩]⟩]⟩
    let repeated : Listing :=
      ⟨[⟨5, " label ", [⟨"label", "x"⟩]⟩, ⟨1, "Label", [⟨"label", "x"⟩]⟩]⟩
    let program : Program :=
      ⟨[⟨1, .defVar, [.var ⟨.global, "x"⟩]⟩, ⟨5, .write, [.var ⟨.global, "x"⟩]⟩], .empty⟩
    shuffled.assemble = .ok program ∧ shuffled.OrdersValid ∧ shuffled.EntriesValid ∧
      shuffled.LabelsDistinct ∧
      program.instructions.Pairwise (fun first second => first.order < second.order) ∧
      repeated.assemble = .error (.duplicateLabel "x") ∧ repeated.OrdersValid ∧
      repeated.EntriesValid ∧ ¬repeated.LabelsDistinct := by
  intro shuffled repeated program
  have sortable : shuffled.OrdersValid := checkOrders_eq_ok_iff_valid.mp rfl
  have alsoSortable : repeated.OrdersValid := checkOrders_eq_ok_iff_valid.mp rfl
  have assembled : shuffled.assemble = .ok program := by
    rw [sortable.assemble_eq, sortable.sorted_eq shuffled.entries.reverse_perm (by decide +kernel)]
    rfl
  have failed : repeated.assemble = .error (.duplicateLabel "x") := by
    rw [alsoSortable.assemble_eq,
      alsoSortable.sorted_eq repeated.entries.reverse_perm (by decide +kernel)]
    rfl
  obtain ⟨accepts, -, -, made, -⟩ := assemble_decides_validity shuffled
  obtain ⟨⟨orders, entries⟩, labels⟩ := accepts.mp ⟨program, assembled⟩
  obtain ⟨-, refuses, -⟩ := assemble_decides_validity repeated
  obtain ⟨⟨alsoOrders, alsoEntries⟩, same⟩ := refuses.mp ⟨_, failed, rfl⟩
  exact ⟨assembled, orders, entries, labels, (made program assembled).1, failed, alsoOrders,
    alsoEntries, same⟩

end Listing
end FrameMachine
