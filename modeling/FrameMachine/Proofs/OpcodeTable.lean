import FrameMachine.Opcode

namespace FrameMachine

/-!
# The table of opcodes

An opcode can be told from its role and from its name.  Both columns of the table are
compared entry by entry, the names without regard to the case of their letters, so that
finding an opcode by a name is a matter of spelling alone: which opcode stands first in
the table makes no difference.
-/

/-- Blanks have no case. -/
theorem Text.toLower_of_isBlank {c : Char} (blank : isBlank c = true) : c.toLower = c := by
  unfold Char.toLower
  split
  · rename_i upper
    have lowest : 65 ≤ c.toNat := upper.1
    have highest : c.toNat ≤ 90 := upper.2
    simp only [isBlank, Bool.or_eq_true, Bool.and_eq_true, decide_eq_true_eq, beq_iff_eq] at blank
    omega
  · rfl

namespace Opcode

theorem mem_all (opcode : Opcode) : opcode ∈ all := by
  cases opcode <;> decide

/-- No two opcodes play the same role. -/
theorem role_injective {first second : Opcode} (same : first.role = second.role) :
    first = second := by
  have distinct : ∀ first ∈ all, ∀ second ∈ all, first.role = second.role → first = second := by
    decide +kernel
  exact distinct first (mem_all first) second (mem_all second) same

/-- Every opcode is found by its own name. -/
theorem ofName?_mnemonic (opcode : Opcode) : ofName? opcode.mnemonic.toList = some opcode := by
  have found : ∀ opcode ∈ all, ofName? opcode.mnemonic.toList = some opcode := by
    decide +kernel
  exact found opcode (mem_all opcode)

/-- No two opcodes have the same name. -/
theorem mnemonic_injective {first second : Opcode} (same : first.mnemonic = second.mnemonic) :
    first = second := by
  have found := ofName?_mnemonic first
  rw [same, ofName?_mnemonic] at found
  exact (Option.some.inj found).symm

/-- An opcode is found by exactly the spellings of its name. -/
theorem ofName?_eq_some_iff {name : List Char} {opcode : Opcode} :
    ofName? name = some opcode ↔
      name.map Char.toLower = opcode.mnemonic.toList.map Char.toLower := by
  constructor
  · intro found
    have same := List.find?_some found
    exact (beq_iff_eq.mp same).symm
  · intro same
    rw [← ofName?_mnemonic opcode]
    unfold ofName? Text.sameIgnoringCase
    rw [same]

/-- No name has a blank in it, however it is spelled. -/
theorem isBlank_of_spelling {opcode : Opcode} {name : List Char}
    (spelled : name.map Char.toLower = opcode.mnemonic.toList.map Char.toLower) :
    ∀ c ∈ name, Text.isBlank c = false := by
  have clear : (all.all fun opcode =>
      (opcode.mnemonic.toList.map Char.toLower).all fun c => !Text.isBlank c) = true := by
    decide +kernel
  intro c member
  have lower : Text.isBlank c.toLower = false := by
    have lowered : c.toLower ∈ opcode.mnemonic.toList.map Char.toLower := by
      rw [← spelled]
      exact List.mem_map_of_mem member
    have spelledClear := List.all_eq_true.mp clear opcode (mem_all opcode)
    simpa using List.all_eq_true.mp spelledClear c.toLower lowered
  apply Bool.eq_false_iff.mpr
  intro blank
  rw [Text.toLower_of_isBlank blank, blank] at lower
  cases lower

end Opcode
end FrameMachine
