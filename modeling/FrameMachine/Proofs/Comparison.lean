import FrameMachine.Proofs.KindDiscipline
import FrameMachine.Proofs.Utf8Order
import Mathlib.Data.Prod.Lex

namespace FrameMachine

/-!
# Comparison is a total order

Order and equality of values are decided in two places, which agree because both of them look
at one thing.  Every value that can be compared has a key in a linear order that belongs to its
kind: a number for an integer, a float and a truth value, and a string for itself.  The three
comparisons of two values are those of their keys, and what is known of linear orders holds of
them.  A NaN has no key and `nil` is in no order, so they are told apart.
-/

namespace Value

/-- Whether the value has a place in an order: values of the other kinds have none, and of the
floats a NaN has none. -/
def IsOrdered (value : Value) : Prop :=
  value.kind.isOrdered = true ∧ value ≠ .float .nan

/-- Where a value stands among those of its kind: a number, and behind it a text. -/
def key : Value → ℤ ×ₗ String
  | .int n => toLex (n.toInt, "")
  | .float x => toLex (x.rank.getD 0, "")
  | .bool b => toLex (b.toNat, "")
  | .string s => toLex (0, s)
  | .nil | .uninitialized => toLex (0, "")

end Value

namespace BinaryOperation

/-- Whether two values compare like two elements of a linear order. -/
structure ComparesLike {α : Type} [LinearOrder α] (first second : α) (left right : Value) :
    Prop where
  less : apply .lt left right = .ok (.bool (decide (first < second)))
  equal : apply .eq left right = .ok (.bool (decide (first = second)))
  greater : apply .gt left right = .ok (.bool (decide (second < first)))

theorem compareOfLessAndEq_beq {α : Type} [LinearOrder α] (first second : α) :
    (compareOfLessAndEq first second == .lt) = decide (first < second) ∧
      (compareOfLessAndEq first second == .eq) = decide (first = second) ∧
      (compareOfLessAndEq first second == .gt) = decide (second < first) := by
  rcases lt_trichotomy first second with less | same | greater
  · simp [compareOfLessAndEq, less, less.ne, less.not_gt]
  · simp [compareOfLessAndEq, same]
  · simp [compareOfLessAndEq, greater, greater.not_gt, greater.ne']

/-- Two values compare like two elements if the order is decided so and the equality too. -/
theorem comparesLike_of_order {α : Type} [LinearOrder α] {first second : α} {left right : Value}
    (order : ∀ operation : BinaryOperation,
      operation.order left right = .ok (some (compareOfLessAndEq first second)))
    (equal : equals left right = .ok (decide (first = second))) :
    ComparesLike first second left right := by
  rcases compareOfLessAndEq_beq first second with ⟨less, -, greater⟩
  refine ⟨?_, ?_, ?_⟩
  · rw [apply, ordered, order, ← less]
    rfl
  · rw [apply, equal]
  · rw [apply, ordered, order, ← greater]
    rfl

/-- Elements may be replaced by others in the same order. -/
theorem ComparesLike.map {α β : Type} [LinearOrder α] [LinearOrder β] {first second : α}
    {left right : Value} (compares : ComparesLike first second left right) {embed : α → β}
    (increases : StrictMono embed) : ComparesLike (embed first) (embed second) left right := by
  refine ⟨?_, ?_, ?_⟩
  · rw [compares.less, decide_eq_decide.mpr increases.lt_iff_lt]
  · rw [compares.equal, decide_eq_decide.mpr increases.injective.eq_iff]
  · rw [compares.greater, decide_eq_decide.mpr increases.lt_iff_lt]

/-! ## Keys -/

section Lexicographic

variable {α β : Type} [LinearOrder α] [LinearOrder β]

theorem strictMono_number (text : β) : StrictMono fun number : α => toLex (number, text) :=
  fun _ _ less => Prod.Lex.toLex_lt_toLex.mpr (Or.inl less)

theorem strictMono_text (number : α) : StrictMono fun text : β => toLex (number, text) :=
  fun _ _ less => Prod.Lex.toLex_lt_toLex.mpr (Or.inr ⟨rfl, less⟩)

end Lexicographic

theorem comparesLike_int (a b : Int64) : ComparesLike a.toInt b.toInt (.int a) (.int b) := by
  apply comparesLike_of_order
  · intro operation
    rfl
  · rw [equals, decide_eq_decide.mpr Int64.toInt_inj]
    rfl

theorem comparesLike_bool (a b : Bool) :
    ComparesLike (a.toNat : ℤ) (b.toNat : ℤ) (.bool a) (.bool b) := by
  apply comparesLike_of_order
  · intro operation
    cases a <;> cases b <;> rfl
  · cases a <;> cases b <;> rfl

theorem exists_rank {x : Binary64} (number : x ≠ .nan) : ∃ place, x.rank = some place := by
  cases x with
  | nan => exact absurd rfl number
  | infinite negative => exact ⟨_, rfl⟩
  | finite y => exact ⟨_, rfl⟩

theorem comparesLike_float {x y : Binary64} (left : x ≠ .nan) (right : y ≠ .nan) :
    ComparesLike (x.rank.getD 0) (y.rank.getD 0) (.float x) (.float y) := by
  rcases exists_rank left with ⟨first, here⟩
  rcases exists_rank right with ⟨second, there⟩
  have compared : x.compare? y = some (compareOfLessAndEq first second) := by
    rw [Binary64.compare?, here, there]
    rfl
  rw [here, there, Option.getD_some, Option.getD_some]
  apply comparesLike_of_order
  · intro operation
    rw [order, compared]
  · rw [equals, Binary64.equal, compared, ← (compareOfLessAndEq_beq first second).2.1]
    rfl

/-- The bytes of two strings are compared, which are in the order of the strings. -/
theorem comparesLike_string (s t : String) : ComparesLike s t (.string s) (.string t) := by
  apply comparesLike_of_order
  · intro operation
    simp only [order, compareText, compareOfLessAndEq, Text.bytes_lt_bytes_iff, Text.bytes_inj]
  · rfl

/-- Values of one kind that are in an order compare like their keys. -/
theorem comparesLike_key {left right : Value} (kind : left.kind = right.kind)
    (leftOrdered : left.IsOrdered) (rightOrdered : right.IsOrdered) :
    ComparesLike left.key right.key left right := by
  cases left with
  | int a =>
      cases right <;> cases kind
      exact (comparesLike_int a _).map (strictMono_number "")
  | float x =>
      cases right <;> cases kind
      refine (comparesLike_float ?_ ?_).map (strictMono_number "")
      · rintro rfl
        exact leftOrdered.2 rfl
      · rintro rfl
        exact rightOrdered.2 rfl
  | bool a =>
      cases right <;> cases kind
      exact (comparesLike_bool a _).map (strictMono_number "")
  | string s =>
      cases right <;> cases kind
      exact (comparesLike_string s _).map (strictMono_text 0)
  | nil => cases leftOrdered.1
  | uninitialized => cases leftOrdered.1

/-! ## Laws of the order -/

/-- Whether a comparison of two values is true. -/
def Holds (operation : BinaryOperation) (left right : Value) : Prop :=
  operation.apply left right = .ok (.bool true)

instance (operation : BinaryOperation) (left right : Value) :
    Decidable (operation.Holds left right) :=
  inferInstanceAs (Decidable (_ = _))

section Laws

variable {α : Type} [LinearOrder α] {first second : α} {left right : Value}

theorem ComparesLike.lt_iff (compares : ComparesLike first second left right) :
    Holds .lt left right ↔ first < second := by
  rw [Holds, compares.less, Except.ok.injEq, Value.bool.injEq, decide_eq_true_iff]

theorem ComparesLike.eq_iff (compares : ComparesLike first second left right) :
    Holds .eq left right ↔ first = second := by
  rw [Holds, compares.equal, Except.ok.injEq, Value.bool.injEq, decide_eq_true_iff]

/-- Exactly one of the three comparisons is true. -/
theorem ComparesLike.exists_ordering (compares : ComparesLike first second left right) :
    ∃ found : Ordering, apply .lt left right = .ok (.bool (found == .lt)) ∧
      apply .eq left right = .ok (.bool (found == .eq)) ∧
      apply .gt left right = .ok (.bool (found == .gt)) := by
  rcases compareOfLessAndEq_beq first second with ⟨less, equal, greater⟩
  refine ⟨compareOfLessAndEq first second, ?_⟩
  rw [less, equal, greater]
  exact ⟨compares.less, compares.equal, compares.greater⟩

end Laws

/-! ## Values in no order -/

theorem compare?_of_nan {x y : Binary64} (missing : x = .nan ∨ y = .nan) :
    x.compare? y = none := by
  rcases missing with rfl | rfl
  · rfl
  · rw [Binary64.compare?]
    cases x.rank <;> rfl

/-- A NaN is neither less than a number nor equal to it nor greater. -/
theorem apply_of_nan {x y : Binary64} (missing : x = .nan ∨ y = .nan) :
    apply .lt (.float x) (.float y) = .ok (.bool false) ∧
      apply .eq (.float x) (.float y) = .ok (.bool false) ∧
      apply .gt (.float x) (.float y) = .ok (.bool false) := by
  have compared := compare?_of_nan missing
  simp [apply, ordered, order, equals, Binary64.equal, compared]

theorem typeError_iff (operation : BinaryOperation) (left right : Value) :
    IsTypeError (operation.apply left right) ↔
      operation.resultKind? left.kind right.kind = none :=
  (operation.disciplined_apply left right).typeError

/-- Equality asks less of kinds than order, and only where `nil` is compared. -/
theorem eq_resultKind?_iff (left right : Kind) :
    resultKind? .eq left right = none ↔
      resultKind? .lt left right = none ∧ left ≠ .nil ∧ right ≠ .nil := by
  cases left <;> cases right <;> decide

theorem kind_eq_nil_iff {value : Value} : value.kind = .nil ↔ value = .nil := by
  cases value <;> simp [Value.kind]

theorem eq_of_nil {left right : Value} (missing : left = .nil ∨ right = .nil) :
    ∃ found, apply .eq left right = .ok (.bool found) ∧
      (found = true ↔ left = .nil ∧ right = .nil) := by
  rcases missing with rfl | rfl
  · refine ⟨right.isNil, ?_, ?_⟩
    · rw [apply, equals]
    · simp [Value.isNil, kind_eq_nil_iff]
  · refine ⟨left.isNil, ?_, ?_⟩
    · cases left <;> rfl
    · simp [Value.isNil, kind_eq_nil_iff]

/-! ## Comparison as a whole -/

/-- Less, equal and greater form a total order on the integers, the truth values, the strings and
the floats without NaN: exactly one of them is true, greater is less the other way round, equality
is symmetric, and less is transitive and does not tell equal values apart.  Strings are compared by
their bytes, and so they are in the lexicographic order of their code points.  With a NaN all
three are false.

Of all values, less and greater refuse the same pairs for their kinds, and equality refuses those
of them that have no `nil`.  Whatever is compared with `nil` is equal to it only if it is `nil`
too. -/
theorem comparisons_form_total_orders :
    (∀ a b c : Value, a.IsOrdered → b.IsOrdered → c.IsOrdered → a.kind = b.kind → b.kind = c.kind →
      (∃ found : Ordering, apply .lt a b = .ok (.bool (found == .lt)) ∧
        apply .eq a b = .ok (.bool (found == .eq)) ∧
        apply .gt a b = .ok (.bool (found == .gt))) ∧
      apply .lt a b = apply .gt b a ∧
      apply .eq a b = apply .eq b a ∧
      (Holds .lt a b → Holds .lt b c → Holds .lt a c) ∧
      (Holds .eq a b → apply .lt a c = apply .lt b c ∧ apply .lt c a = apply .lt c b ∧
        apply .eq a c = apply .eq b c)) ∧
    (∀ s t : String, (Holds .lt (.string s) (.string t) ↔ Text.bytes s < Text.bytes t) ∧
      (Text.bytes s < Text.bytes t ↔ s.toList < t.toList)) ∧
    (∀ x y : Binary64, x = .nan ∨ y = .nan →
      apply .lt (.float x) (.float y) = .ok (.bool false) ∧
      apply .eq (.float x) (.float y) = .ok (.bool false) ∧
      apply .gt (.float x) (.float y) = .ok (.bool false)) ∧
    ∀ a b : Value,
      (IsTypeError (apply .lt a b) ↔ IsTypeError (apply .gt a b)) ∧
      (IsTypeError (apply .eq a b) ↔ IsTypeError (apply .lt a b) ∧ a ≠ .nil ∧ b ≠ .nil) ∧
      (a = .nil ∨ b = .nil → ∃ found, apply .eq a b = .ok (.bool found) ∧
        (found = true ↔ a = .nil ∧ b = .nil)) := by
  refine ⟨?_, fun s t => ?_, fun x y => apply_of_nan, fun a b => ⟨?_, ?_, eq_of_nil⟩⟩
  · intro a b c aOrdered bOrdered cOrdered ab bc
    have first := comparesLike_key ab aOrdered bOrdered
    have turned := comparesLike_key ab.symm bOrdered aOrdered
    have second := comparesLike_key bc bOrdered cOrdered
    have outer := comparesLike_key (ab.trans bc) aOrdered cOrdered
    have toFirst := comparesLike_key (ab.trans bc).symm cOrdered aOrdered
    have toSecond := comparesLike_key bc.symm cOrdered bOrdered
    refine ⟨first.exists_ordering, ?_, ?_, ?_, ?_⟩
    · rw [first.less, turned.greater]
    · rw [first.equal, turned.equal, decide_eq_decide.mpr eq_comm]
    · rw [first.lt_iff, second.lt_iff, outer.lt_iff]
      exact lt_trans
    · rw [first.eq_iff, outer.less, second.less, toFirst.less, toSecond.less, outer.equal,
        second.equal]
      intro same
      rw [same]
      exact ⟨rfl, rfl, rfl⟩
  · rw [(comparesLike_string s t).lt_iff, Text.bytes_lt_bytes_iff, String.lt_iff_toList_lt]
    exact ⟨Iff.rfl, Iff.rfl⟩
  · rw [typeError_iff, typeError_iff]
    rfl
  · rw [typeError_iff, typeError_iff, eq_resultKind?_iff, ne_eq, ne_eq, kind_eq_nil_iff,
      kind_eq_nil_iff]

/-- Characters with encodings of one, three and four bytes, and the two zeros. -/
theorem comparisons_form_total_orders_mixed :
    Holds .lt (.string "z") (.string "ﬀ") ∧ Holds .lt (.string "ﬀ") (.string "𐍈") ∧
      Holds .lt (.string "z") (.string "𐍈") ∧
    Holds .eq (.float (.zero true)) (.float (.zero false)) ∧
      apply .lt (.float (.zero true)) (.float (.infinite false)) =
        apply .lt (.float (.zero false)) (.float (.infinite false)) := by
  rcases comparisons_form_total_orders with ⟨laws, -⟩
  have strings (s : String) : (Value.string s).IsOrdered := ⟨rfl, by simp⟩
  have floats {x : Binary64} (number : x ≠ .nan) : (Value.float x).IsOrdered := by
    refine ⟨rfl, fun same => number ?_⟩
    cases same
    rfl
  have less : Holds .lt (.string "z") (.string "ﬀ") := by decide
  have lessToo : Holds .lt (.string "ﬀ") (.string "𐍈") := by decide
  have same : Holds .eq (.float (.zero true)) (.float (.zero false)) := by decide
  rcases laws (.string "z") (.string "ﬀ") (.string "𐍈") (strings _) (strings _) (strings _) rfl
    rfl with ⟨-, -, -, transitive, -⟩
  rcases laws (.float (.zero true)) (.float (.zero false)) (.float (.infinite false))
    (floats (by decide)) (floats (by decide)) (floats (by decide)) rfl rfl with
    ⟨-, -, -, -, respects⟩
  exact ⟨less, lessToo, transitive less lessToo, same, (respects same).1⟩

end BinaryOperation
end FrameMachine
