import FrameMachine.Listing.Assembly
import FrameMachine.Proofs.Labels

namespace FrameMachine

/-!
# Checked instructions

`Instruction.checked` compares operands with the signature of an opcode before
anything runs, while the accessors of an instruction look at one slot at a time and
trust nothing.  This module relates the two: an instruction that passed the check
answers every accessor that its signature allows, and none of its literals is the
placeholder.

A program is checked when all of its instructions are.  Every program that is
assembled from a listing is checked, because assembly builds instructions in no
other way.
-/

/-- The operand that a symbol is. -/
def Symbol.operand : Symbol → Operand
  | .var v => .var v
  | .literal value => .literal value

theorem Operand.exists_symbol_of_fits {operand : Operand} (fits : operand.fits .symb = true) :
    ∃ symbol : Symbol, operand = symbol.operand := by
  cases operand with
  | var v => exact ⟨.var v, rfl⟩
  | literal value => exact ⟨.literal value, rfl⟩
  | label name => cases fits
  | type name => cases fits

theorem Operand.exists_var_of_fits {operand : Operand} (fits : operand.fits .var = true) :
    ∃ v, operand = .var v := by
  cases operand with
  | var v => exact ⟨v, rfl⟩
  | _ => cases fits

theorem Operand.exists_label_of_fits {operand : Operand} (fits : operand.fits .label = true) :
    ∃ name, operand = .label name := by
  cases operand with
  | label name => exact ⟨name, rfl⟩
  | _ => cases fits

theorem Operand.exists_type_of_fits {operand : Operand} (fits : operand.fits .type = true) :
    ∃ name, operand = .type name := by
  cases operand with
  | type name => exact ⟨name, rfl⟩
  | _ => cases fits

namespace Instruction

/-! ## Accessors -/

section Accessors

variable {instruction : Instruction} {slot : Nat}

theorem varAt_eq_ok_iff {v : Variable} :
    instruction.varAt slot = .ok v ↔ instruction.operands[slot]? = some (.var v) := by
  unfold varAt operandAt
  cases instruction.operands[slot]? with
  | none => simp
  | some operand => cases operand <;> simp

theorem symbolAt_eq_ok_iff {symbol : Symbol} :
    instruction.symbolAt slot = .ok symbol ↔
      instruction.operands[slot]? = some symbol.operand := by
  unfold symbolAt operandAt
  cases instruction.operands[slot]? with
  | none => simp
  | some operand => cases operand <;> cases symbol <;> simp [Symbol.operand]

theorem labelAt_eq_ok_iff {name : String} :
    instruction.labelAt slot = .ok name ↔ instruction.operands[slot]? = some (.label name) := by
  unfold labelAt operandAt
  cases instruction.operands[slot]? with
  | none => simp
  | some operand => cases operand <;> simp

theorem typeAt_eq_ok_iff {name : TypeName} :
    instruction.typeAt slot = .ok name ↔ instruction.operands[slot]? = some (.type name) := by
  unfold typeAt operandAt
  cases instruction.operands[slot]? with
  | none => simp
  | some operand => cases operand <;> simp

end Accessors

/-! ## The check -/

/-- The instruction is one that `checked` returns. -/
def IsChecked (instruction : Instruction) : Prop :=
  checked instruction.order instruction.opcode instruction.operands = .ok instruction

/-- The accessor for a kind of operand succeeds at a slot. -/
def Provides (instruction : Instruction) (slot : Nat) : Slot → Prop
  | .var => ∃ v, instruction.varAt slot = .ok v
  | .symb => ∃ symbol, instruction.symbolAt slot = .ok symbol
  | .label => ∃ name, instruction.labelAt slot = .ok name
  | .type => ∃ name, instruction.typeAt slot = .ok name

/-- The accessor for a kind of operand fails at a slot with an error. -/
def Refuses (instruction : Instruction) (slot : Nat) (error : Error) : Slot → Prop
  | .var => instruction.varAt slot = .error error
  | .symb => instruction.symbolAt slot = .error error
  | .label => instruction.labelAt slot = .error error
  | .type => instruction.typeAt slot = .error error

/-- An accessor does not both succeed and fail. -/
theorem Provides.not_refuses {instruction : Instruction} {slot : Nat} {kind : Slot}
    (provides : instruction.Provides slot kind) (error : Error) :
    ¬instruction.Refuses slot error kind := by
  intro refuses
  cases kind with
  | var =>
      obtain ⟨v, found⟩ := provides
      cases found.symm.trans refuses
  | symb =>
      obtain ⟨symbol, found⟩ := provides
      cases found.symm.trans refuses
  | label =>
      obtain ⟨name, found⟩ := provides
      cases found.symm.trans refuses
  | type =>
      obtain ⟨name, found⟩ := provides
      cases found.symm.trans refuses

/-- Without a misfit every operand fits the slot that it meets. -/
theorem fits_of_misfit?_eq_none {start : Nat} {operands : List Operand} {slots : List Slot}
    (none : misfit? start operands slots = none) {index : Nat} {operand : Operand} {slot : Slot}
    (found : operands[index]? = some operand) (declared : slots[index]? = some slot) :
    operand.fits slot = true := by
  induction operands generalizing start slots index with
  | nil => simp at found
  | cons first operands inductionHypothesis =>
      cases slots with
      | nil => simp at declared
      | cons head slots =>
          rw [misfit?] at none
          by_cases fits : first.fits head = true
          · rw [if_pos fits] at none
            cases index with
            | zero =>
                simp only [List.getElem?_cons_zero, Option.some.injEq] at found declared
                rw [← found, ← declared]
                exact fits
            | succ index =>
                simp only [List.getElem?_cons_succ] at found declared
                exact inductionHypothesis none found declared
          · rw [if_neg fits] at none
            cases none

/-- Operands that fit slots for symbols are symbols. -/
theorem exists_symbols_of_misfit? {operands : List Operand} {start number : Nat}
    (length : operands.length = number)
    (fitting : misfit? start operands (List.replicate number .symb) = none) :
    ∃ symbols : List Symbol, operands = symbols.map Symbol.operand := by
  induction operands generalizing start number with
  | nil => exact ⟨[], rfl⟩
  | cons operand operands inductionHypothesis =>
      subst length
      rw [List.length_cons, List.replicate_succ, misfit?] at fitting
      by_cases fits : operand.fits .symb = true
      · rw [if_pos fits] at fitting
        obtain ⟨symbol, isSymbol⟩ := Operand.exists_symbol_of_fits fits
        obtain ⟨symbols, areSymbols⟩ := inductionHypothesis rfl fitting
        exact ⟨symbol :: symbols, by rw [isSymbol, areSymbols, List.map_cons]⟩
      · rw [if_neg fits] at fitting
        cases fitting

/-- What the check asks of an instruction, and that it changes nothing. -/
theorem checked_eq_ok_iff {order : Nat} {opcode : Opcode} {operands : List Operand}
    {instruction : Instruction} :
    checked order opcode operands = .ok instruction ↔
      instruction = ⟨order, opcode, operands⟩ ∧
        operands.length = opcode.signature.length ∧
        misfit? 0 operands opcode.signature = none ∧
        .literal .uninitialized ∉ operands := by
  unfold checked
  by_cases length : operands.length = opcode.signature.length
  · rw [if_neg (not_not_intro length)]
    cases fitting : misfit? 0 operands opcode.signature with
    | some misfit => simp
    | none =>
        by_cases placeholder : operands.contains (.literal .uninitialized) = true
        · simp only [if_pos placeholder, reduceCtorEq, List.contains_iff_mem.mp placeholder,
            not_true_eq_false, and_false]
        · have absent : .literal .uninitialized ∉ operands :=
            fun member => placeholder (List.contains_iff_mem.mpr member)
          simp only [if_neg placeholder, Except.ok.injEq, length, absent, not_false_eq_true,
            and_true]
          exact eq_comm
  · simp [length]

theorem isChecked_iff {instruction : Instruction} :
    instruction.IsChecked ↔
      instruction.operands.length = instruction.opcode.signature.length ∧
        misfit? 0 instruction.operands instruction.opcode.signature = none ∧
        .literal .uninitialized ∉ instruction.operands := by
  unfold IsChecked
  rw [checked_eq_ok_iff]
  exact and_iff_right rfl

/-- A checked instruction is the result of checking its own parts. -/
theorem isChecked_of_checked {order : Nat} {opcode : Opcode} {operands : List Operand}
    {instruction : Instruction} (passed : checked order opcode operands = .ok instruction) :
    instruction.IsChecked := by
  have parts := (checked_eq_ok_iff.mp passed).1
  subst parts
  exact passed

/-- The check does not depend on the order number. -/
theorem isChecked_of_parts {instruction : Instruction} {opcode : Opcode}
    {operands : List Operand}
    (spelled : (instruction.opcode, instruction.operands) = (opcode, operands))
    (length : operands.length = opcode.signature.length)
    (fitting : misfit? 0 operands opcode.signature = none)
    (absent : .literal .uninitialized ∉ operands) : instruction.IsChecked := by
  obtain ⟨rfl, rfl⟩ := Prod.mk.inj spelled
  exact isChecked_iff.mpr ⟨length, fitting, absent⟩

namespace IsChecked

variable {instruction : Instruction}

/-- A slot of the signature is filled, and by an operand that fits. -/
theorem operandAt (passed : instruction.IsChecked) {slot : Nat} {kind : Slot}
    (declared : instruction.opcode.signature[slot]? = some kind) :
    ∃ operand, instruction.operands[slot]? = some operand ∧ operand.fits kind = true := by
  obtain ⟨length, fitting, -⟩ := isChecked_iff.mp passed
  have bound : slot < instruction.operands.length := by
    rw [length]
    exact (List.getElem?_eq_some_iff.mp declared).1
  have found := List.getElem?_eq_getElem bound
  exact ⟨_, found, fits_of_misfit?_eq_none fitting found declared⟩

/-- Every accessor that the signature allows succeeds. -/
theorem provides (passed : instruction.IsChecked) {slot : Nat} {kind : Slot}
    (declared : instruction.opcode.signature[slot]? = some kind) :
    instruction.Provides slot kind := by
  obtain ⟨operand, found, fits⟩ := passed.operandAt declared
  cases kind with
  | var =>
      obtain ⟨v, rfl⟩ := Operand.exists_var_of_fits fits
      exact ⟨v, varAt_eq_ok_iff.mpr found⟩
  | symb =>
      obtain ⟨symbol, rfl⟩ := Operand.exists_symbol_of_fits fits
      exact ⟨symbol, symbolAt_eq_ok_iff.mpr found⟩
  | label =>
      obtain ⟨name, rfl⟩ := Operand.exists_label_of_fits fits
      exact ⟨name, labelAt_eq_ok_iff.mpr found⟩
  | type =>
      obtain ⟨name, rfl⟩ := Operand.exists_type_of_fits fits
      exact ⟨name, typeAt_eq_ok_iff.mpr found⟩

/-- No literal of a checked instruction is the placeholder. -/
theorem literal_isInitialized (passed : instruction.IsChecked) {slot : Nat} {value : Value}
    (found : instruction.symbolAt slot = .ok (.literal value)) :
    value.isInitialized = true := by
  have absent := (isChecked_iff.mp passed).2.2
  have member : .literal value ∈ instruction.operands :=
    List.mem_of_getElem? (symbolAt_eq_ok_iff.mp found)
  cases value with
  | uninitialized => exact absurd member absent
  | _ => rfl

/-- The operands of a checked instruction with one slot of its own before the slots for
symbols. -/
theorem exists_operands (passed : instruction.IsChecked) {kind : Slot} {number : Nat}
    (declared : instruction.opcode.signature = kind :: List.replicate number .symb) :
    ∃ (first : Operand) (symbols : List Symbol),
      instruction.operands = first :: symbols.map Symbol.operand ∧
        .literal .uninitialized ∉ symbols.map Symbol.operand ∧ first.fits kind = true ∧
          symbols.length = number := by
  obtain ⟨length, fitting, absent⟩ := isChecked_iff.mp passed
  rw [declared] at length fitting
  cases operands : instruction.operands with
  | nil => simp [operands] at length
  | cons first others =>
      rw [operands, misfit?] at fitting
      rw [operands] at absent
      rw [operands, List.length_cons, List.length_cons, List.length_replicate,
        Nat.add_right_cancel_iff] at length
      by_cases fits : first.fits kind = true
      · rw [if_pos fits] at fitting
        obtain ⟨symbols, areSymbols⟩ := exists_symbols_of_misfit? length fitting
        subst areSymbols
        refine ⟨first, symbols, rfl, List.not_mem_of_not_mem_cons absent, fits, ?_⟩
        rw [← length, List.length_map]
      · rw [if_neg fits] at fitting
        cases fitting

end IsChecked
end Instruction

namespace Program

/-- All instructions of the program passed their check. -/
def IsChecked (program : Program) : Prop :=
  ∀ instruction ∈ program.instructions, instruction.IsChecked

end Program

namespace Listing

theorem Entry.instruction_isChecked {entry : Entry} {instruction : Instruction}
    (made : entry.instruction = .ok instruction) : instruction.IsChecked := by
  unfold Entry.instruction at made
  cases opcode : Opcode.ofName? (Text.trim entry.opcode.toList) with
  | none => simp [opcode] at made
  | some opcode' =>
      simp only [opcode] at made
      split at made
      · cases made
      · split at made
        · split at made
          · exact Instruction.isChecked_of_checked made
          · cases made
        · cases made

theorem instructions_isChecked {entries : List Entry} {made : List Instruction}
    (assembled : instructions entries = .ok made) :
    ∀ instruction ∈ made, instruction.IsChecked := by
  induction entries generalizing made with
  | nil =>
      cases assembled
      simp
  | cons entry entries inductionHypothesis =>
      rw [instructions] at assembled
      cases first : entry.instruction with
      | error error => simp [first] at assembled
      | ok instruction =>
          cases rest : instructions entries with
          | error error => simp [first, rest] at assembled
          | ok others =>
              simp only [first, rest, Except.ok.injEq] at assembled
              subst assembled
              intro member mem
              rcases List.mem_cons.mp mem with equal | later
              · exact equal ▸ Entry.instruction_isChecked first
              · exact inductionHypothesis rest member later

theorem assemble_isChecked {listing : Listing} {program : Program}
    (assembled : listing.assemble = .ok program) : program.IsChecked := by
  unfold assemble at assembled
  split at assembled
  · split at assembled
    · rename_i made
      unfold Program.IsChecked
      rw [Program.instructions_of_ofInstructions assembled]
      exact instructions_isChecked made
    · cases assembled
  · cases assembled

end Listing

/-- A program written by a text is checked. -/
theorem Program.ofText_isChecked {text : String} {program : Program}
    (loaded : Program.ofText text = .ok program) : program.IsChecked := by
  unfold Program.ofText at loaded
  split at loaded
  · exact Listing.assemble_isChecked loaded
  · cases loaded

end FrameMachine
