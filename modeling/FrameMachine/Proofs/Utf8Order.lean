import FrameMachine.Text.Bytes
import Mathlib.Data.Nat.Init
import Mathlib.Data.String.Basic
import Mathlib.Tactic.SplitIfs

namespace FrameMachine
namespace Text

/-!
# The order of bytes is the order of code points

Texts are compared byte by byte, and the outcome is that of comparing them code point by code
point.  A code point is written as a leading byte and up to three continuation bytes, which
hold its last digits to the base 64.  The leading byte tells how many of them follow.  Of two
code points the one with fewer continuation bytes is smaller and so is its leading byte, and
with equally many the digits decide.  The encodings of two different characters therefore
differ before either of them ends, whatever stands behind them.
-/

/-! ## The parts of an encoding -/

/-- The last digits of a code point to the base 64, as continuation bytes. -/
def continuation : (count code : Nat) → List UInt8
  | 0, _ => []
  | count + 1, code => UInt8.ofNat (code / 64 ^ count % 64 + 128) :: continuation count code

/-- How many continuation bytes a code point has. -/
def continuationCount (code : Nat) : Nat :=
  if code ≤ 0x7f then 0 else if code ≤ 0x7ff then 1 else if code ≤ 0xffff then 2 else 3

/-- What a leading byte has in front of its digit. -/
def leadingMark : (count : Nat) → Nat
  | 0 => 0
  | 1 => 0xc0
  | 2 => 0xe0
  | _ => 0xf0

/-- The leading byte of a code point, as a number. -/
def leading (code : Nat) : Nat :=
  leadingMark (continuationCount code) + code / 64 ^ continuationCount code

theorem toNat_lt (c : Char) : c.toNat < 0x110000 := by
  have bounds := c.valid
  rw [UInt32.isValidChar, Nat.isValidChar] at bounds
  rw [Char.toNat]
  omega

/-- An encoding is a leading byte with continuation bytes behind it. -/
theorem utf8EncodeChar_eq (c : Char) :
    String.utf8EncodeChar c =
      UInt8.ofNat (leading c.toNat) :: continuation (continuationCount c.toNat) c.toNat := by
  have valid : c.val.toNat < 0x110000 := toNat_lt c
  simp only [String.utf8EncodeChar, leading, continuationCount, Char.toNat]
  split_ifs <;>
    simp only [leadingMark, continuation, Nat.reducePow, Nat.div_one, Nat.zero_add]
  all_goals congr 2; omega

section Parts

variable {code first second count : Nat}

theorem leading_lt (valid : code < 0x110000) : leading code < 256 := by
  unfold leading continuationCount
  split_ifs <;> simp only [leadingMark] <;> omega

/-- A smaller code point has the smaller leading byte, or as many continuation bytes and the
smaller digits in them. -/
theorem leading_of_lt (smaller : first < second) (valid : second < 0x110000) :
    leading first < leading second ∨
      leading first = leading second ∧ continuationCount first = continuationCount second ∧
        first % 64 ^ continuationCount first < second % 64 ^ continuationCount first := by
  unfold leading continuationCount
  split_ifs <;> simp only [leadingMark, Nat.reducePow, true_and] <;> omega

theorem ofNat_lt_ofNat_iff (firstFits : first < 256) (secondFits : second < 256) :
    UInt8.ofNat first < UInt8.ofNat second ↔ first < second := by
  rw [UInt8.lt_iff_toNat_lt, UInt8.toNat_ofNat_of_lt' firstFits,
    UInt8.toNat_ofNat_of_lt' secondFits]

/-- Digits that stand for a smaller number come first. -/
theorem continuation_append_lt (smaller : first % 64 ^ count < second % 64 ^ count)
    (behindFirst behindSecond : List UInt8) :
    continuation count first ++ behindFirst < continuation count second ++ behindSecond := by
  induction count with
  | zero =>
      rw [Nat.pow_zero, Nat.mod_one, Nat.mod_one] at smaller
      exact absurd smaller (Nat.lt_irrefl 0)
  | succ count inductionHypothesis =>
      have below : second % 64 ^ count < 64 ^ count := Nat.mod_lt _ (Nat.pow_pos (by omega))
      rw [Nat.pow_succ, Nat.mod_mul, Nat.mod_mul] at smaller
      rw [continuation, continuation, List.cons_append, List.cons_append, List.cons_lt_cons_iff]
      rcases Nat.lt_trichotomy (first / 64 ^ count % 64) (second / 64 ^ count % 64) with
        less | same | more
      · left
        rw [ofNat_lt_ofNat_iff (by omega) (by omega)]
        omega
      · right
        refine ⟨by rw [same], inductionHypothesis ?_⟩
        rw [same] at smaller
        exact Nat.add_lt_add_iff_right.mp smaller
      · have product := Nat.mul_le_mul_left (64 ^ count) more
        rw [Nat.mul_succ] at product
        omega

end Parts

/-! ## Characters and texts -/

/-- The encoding of a smaller character comes first, whatever follows. -/
theorem utf8EncodeChar_append_lt {c d : Char} (smaller : c < d)
    (behindFirst behindSecond : List UInt8) :
    String.utf8EncodeChar c ++ behindFirst < String.utf8EncodeChar d ++ behindSecond := by
  have codes : c.toNat < d.toNat := UInt32.lt_iff_toNat_lt.mp (Char.lt_def.mp smaller)
  rw [utf8EncodeChar_eq, utf8EncodeChar_eq, List.cons_append, List.cons_append,
    List.cons_lt_cons_iff, ofNat_lt_ofNat_iff (leading_lt (toNat_lt c)) (leading_lt (toNat_lt d))]
  rcases leading_of_lt codes (toNat_lt d) with less | ⟨same, count, digits⟩
  · exact Or.inl less
  · rw [same, ← count]
    exact Or.inr ⟨rfl, continuation_append_lt digits behindFirst behindSecond⟩

theorem append_lt_append_left (common : List UInt8) {first second : List UInt8}
    (smaller : first < second) : common ++ first < common ++ second := by
  induction common with
  | nil => exact smaller
  | cons byte common inductionHypothesis =>
      exact List.cons_lt_cons_iff.mpr (Or.inr ⟨rfl, inductionHypothesis⟩)

theorem flatMap_utf8EncodeChar_lt {first second : List Char} (smaller : first < second) :
    first.flatMap String.utf8EncodeChar < second.flatMap String.utf8EncodeChar := by
  induction smaller with
  | nil =>
      rw [List.flatMap_nil, List.flatMap_cons, utf8EncodeChar_eq]
      exact List.nil_lt_cons _ _
  | cons _ inductionHypothesis =>
      rw [List.flatMap_cons, List.flatMap_cons]
      exact append_lt_append_left _ inductionHypothesis
  | rel less =>
      rw [List.flatMap_cons, List.flatMap_cons]
      exact utf8EncodeChar_append_lt less _ _

theorem bytes_lt_of_lt {first second : String} (smaller : first < second) :
    bytes first < bytes second := by
  rw [bytes_eq_flatMap, bytes_eq_flatMap]
  exact flatMap_utf8EncodeChar_lt (String.lt_iff_toList_lt.mp smaller)

/-- Texts are in the order of their bytes. -/
theorem bytes_lt_bytes_iff {first second : String} :
    bytes first < bytes second ↔ first < second := by
  refine ⟨fun smaller => ?_, bytes_lt_of_lt⟩
  rcases lt_trichotomy first second with less | same | more
  · exact less
  · rw [same] at smaller
    exact absurd smaller (List.lt_irrefl _)
  · exact absurd smaller (List.lt_asymm (bytes_lt_of_lt more))

theorem bytes_inj {first second : String} : bytes first = bytes second ↔ first = second := by
  refine ⟨fun same => ?_, congrArg bytes⟩
  rcases lt_trichotomy first second with less | equal | more
  · exact absurd (same ▸ bytes_lt_of_lt less) (List.lt_irrefl _)
  · exact equal
  · exact absurd (same ▸ bytes_lt_of_lt more) (List.lt_irrefl _)

end Text
end FrameMachine
