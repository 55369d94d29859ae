import FrameMachine.Proofs.FloatText

namespace FrameMachine

/-!
# Operands and their texts

Dumps and messages show operands, and listings declare them.  The text that is shown is the
text that would have to be declared: an operand becomes an argument of a listing by its own
text alone, and that argument is read as the same operand in every slot which the operand fits.
For literals the text holds both parts of the argument, with a mark between them that no kind
has in its name, so that a string may hold marks of its own.
-/

namespace Operand

/-- Whether a listing can declare the operand.  A placeholder has no literal, an empty name
cannot be declared, and what is read for a NaN need not have the same bits. -/
def IsWritable : Operand → Prop
  | .var v => v.name ≠ ""
  | .literal value => value.isInitialized = true ∧ value ≠ .float .nan
  | .label name => name ≠ ""
  | .type _ => True

instance (operand : Operand) : Decidable operand.IsWritable :=
  match operand with
  | .var v => inferInstanceAs (Decidable (v.name ≠ ""))
  | .literal value => inferInstanceAs (Decidable (value.isInitialized = true ∧ value ≠ .float .nan))
  | .label name => inferInstanceAs (Decidable (name ≠ ""))
  | .type _ => inferInstanceAs (Decidable True)

/-- The argument of a listing that the text of an operand gives.  The text of a literal is
divided at its first `@`, and the others are values of the kind that they are. -/
def argument (operand : Operand) : Listing.Argument :=
  match operand.kind with
  | .literal =>
      let (kind, value) := Text.splitAtFirst (· == '@') operand.text.toList
      ⟨String.ofList kind, String.ofList (value.getD [])⟩
  | kind => ⟨kind.name, operand.text⟩

/-- The argument of a literal whose text is known. -/
theorem argument_literal {value : Value} (kind text : String) (absent : '@' ∉ kind.toList)
    (spelled : value.text.toList = kind.toList ++ '@' :: text.toList) :
    (Operand.literal value).argument = ⟨kind, text⟩ := by
  have divided : Text.splitAtFirst (· == '@') (Operand.literal value).text.toList =
      (kind.toList, some text.toList) := by
    rw [Operand.text, spelled, Text.splitAtFirst_of_mark absent]
  simp only [argument, Operand.kind, divided, Option.getD_some, String.ofList_toList]

/-- A literal is denoted by the two halves of its text. -/
theorem denotes_argument_literal {value : Value} (initialized : value.isInitialized = true) :
    (Operand.literal value).argument.Denotes (.literal value) := by
  cases value with
  | int n =>
      rw [argument_literal "int" (Numeral.decimal n.toInt) (by decide) (by simp [Value.text])]
      exact .int _ n (Numeral.integer?_decimal n)
  | float x =>
      rw [argument_literal "float" x.text (by decide) (by simp [Value.text])]
      exact .float _ x (Binary64.ofText?_text x)
  | bool b =>
      rw [argument_literal "bool" (Value.boolText b) (by decide) (by simp [Value.text])]
      exact .bool b
  | string s =>
      rw [argument_literal "string" s (by decide) (by simp [Value.text])]
      exact .string s
  | nil =>
      rw [argument_literal "nil" "nil" (by decide) (by simp [Value.text])]
      exact .nil
  | uninitialized => cases initialized

/-- An operand that can be declared is denoted by the argument that its text gives. -/
theorem IsWritable.denotes {operand : Operand} (writable : operand.IsWritable) :
    operand.argument.Denotes operand := by
  cases operand with
  | var v => exact .var v writable
  | literal value => exact denotes_argument_literal writable.1
  | label name => exact .label name writable
  | type name => exact .type name

end Operand

/-- An argument denotes one operand. -/
theorem Listing.Argument.Denotes.unique {argument : Argument} {first second : Operand}
    (denotesFirst : argument.Denotes first) (denotesSecond : argument.Denotes second) :
    first = second := by
  have declared := declared_eq_ok_iff.mpr denotesFirst
  rw [declared_eq_ok_iff.mpr denotesSecond] at declared
  exact (Except.ok.inj declared).symm

namespace Operand

/-- Operands are read back from their own texts.  Every operand that a listing can declare is
what the argument given by its text declares in a slot that it fits, and in any other slot the
listing is malformed.  For a floating-point literal with a given bit pattern the bits are the
same.  Conversely, a text that is read as a variable is the text of that variable. -/
theorem text_reads_back :
    (∀ operand : Operand, operand.IsWritable → ∀ slot,
      if operand.fits slot = true then operand.argument.operand slot = .ok operand
      else ∃ error, operand.argument.operand slot = .error error ∧
        error.kind = .malformedProgram) ∧
    (∀ bits : UInt64, Binary64.ofBits bits ≠ .nan → ∃ x : Binary64,
      (Operand.literal (.float (.ofBits bits))).argument.operand .symb =
        .ok (.literal (.float x)) ∧ x.toBits = bits) ∧
    ∀ text v, Variable.ofText text = .ok v → v.text = text := by
  refine ⟨?_, ?_, ?_⟩
  · intro operand writable slot
    have denotes := writable.denotes
    split
    · rename_i fits
      exact Listing.Argument.operand_eq_ok_iff.mpr ⟨denotes, fits⟩
    · rename_i misfit
      cases read : operand.argument.operand slot with
      | error error => exact ⟨error, rfl, Listing.Argument.operand_error read⟩
      | ok found =>
          rcases Listing.Argument.operand_eq_ok_iff.mp read with ⟨denoted, fits⟩
          rw [denoted.unique denotes] at fits
          exact absurd fits misfit
  · intro bits number
    have denotes : (Operand.literal (.float (.ofBits bits))).argument.Denotes
        (.literal (.float (.ofBits bits))) := denotes_argument_literal rfl
    exact ⟨.ofBits bits, Listing.Argument.operand_eq_ok_iff.mpr ⟨denotes, rfl⟩,
      Binary64.toBits_ofBits number⟩
  · intro text v read
    exact (Variable.ofText_eq_ok_iff.mp read).1.symm

/-- The least integer, in a slot that it fits and in one that it does not, the bit pattern of
the least positive number, and a variable with a mark in its name. -/
theorem text_reads_back_extremes :
    let least := Operand.literal (.int Int64.minValue)
    least.IsWritable ∧ least.argument = ⟨"int", "-9223372036854775808"⟩ ∧
    least.argument.operand .symb = .ok least ∧
    (∃ error, least.argument.operand .var = .error error ∧ error.kind = .malformedProgram) ∧
    (∃ x : Binary64, (Operand.literal (.float (.ofBits 1))).argument.operand .symb =
      .ok (.literal (.float x)) ∧ x.toBits = 1) ∧
    Variable.ofText "LF@a@b" = .ok ⟨.localTop, "a@b"⟩ ∧
    Variable.text ⟨.localTop, "a@b"⟩ = "LF@a@b" := by
  intro least
  rcases text_reads_back with ⟨readBack, sameBits, sameText⟩
  have writable : least.IsWritable := by decide
  have fitting := readBack least writable .symb
  have misplaced := readBack least writable .var
  rw [if_pos (by decide)] at fitting
  rw [if_neg (by decide)] at misplaced
  have marked : Variable.ofText "LF@a@b" = .ok ⟨.localTop, "a@b"⟩ := by decide +kernel
  exact ⟨writable, by decide +kernel, fitting, misplaced, sameBits 1 (by decide), marked,
    sameText _ _ marked⟩

end Operand
end FrameMachine
