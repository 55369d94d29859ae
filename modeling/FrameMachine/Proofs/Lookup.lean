namespace FrameMachine
namespace Lookup

/-!
# Look-up in lists of pairs

Labels, frames and records are lists of pairs of a name and something else, and statistics are
lists of pairs of an opcode and a number.  Look-up finds the first pair with a name.  Where no name
is repeated the first is the only one, so that what is found is what the list holds.
-/

variable {Name α : Type} [DecidableEq Name] {pairs : List (Name × α)} {name : Name} {value : α}

theorem lookup_cons_eq_ite (pairs : List (Name × α)) (first : Name) (value : α) (name : Name) :
    ((first, value) :: pairs).lookup name =
      if name = first then some value else pairs.lookup name := by
  rw [List.lookup_cons]
  by_cases same : name = first
  · simp [same]
  · simp [same, beq_false_of_ne same]

theorem isSome_lookup_iff : (pairs.lookup name).isSome = true ↔ name ∈ pairs.map Prod.fst := by
  simp [List.lookup_isSome_iff]

theorem lookup_eq_none_iff_notMem : pairs.lookup name = none ↔ name ∉ pairs.map Prod.fst := by
  rw [← isSome_lookup_iff, Bool.not_eq_true, Option.isSome_eq_false_iff,
    Option.isNone_iff_eq_none]

/-- Without repeated names every pair is found. -/
theorem lookup_eq_some_iff_mem (distinct : (pairs.map Prod.fst).Nodup) :
    pairs.lookup name = some value ↔ (name, value) ∈ pairs := by
  induction pairs with
  | nil => simp
  | cons pair pairs inductionHypothesis =>
      rcases pair with ⟨first, found⟩
      rcases List.nodup_cons.mp distinct with ⟨fresh, rest⟩
      rw [lookup_cons_eq_ite, List.mem_cons, Prod.mk.injEq, ← inductionHypothesis rest]
      by_cases same : name = first
      · have absent : pairs.lookup name = none :=
          lookup_eq_none_iff_notMem.mpr (same ▸ fresh)
        rw [absent]
        simp [same, eq_comm]
      · simp [same]

/-- Changing what stands under one name changes the answer to this name. -/
theorem lookup_map_ite (pairs : List (Name × α)) (changed : Name) (change : α → α) (name : Name) :
    (pairs.map fun pair => if pair.1 = changed then (pair.1, change pair.2) else pair).lookup name =
      if name = changed then (pairs.lookup name).map change else pairs.lookup name := by
  induction pairs with
  | nil => simp
  | cons pair pairs inductionHypothesis =>
      rcases pair with ⟨first, found⟩
      rw [List.map_cons, lookup_cons_eq_ite]
      by_cases here : first = changed
      · rw [if_pos here, lookup_cons_eq_ite, inductionHypothesis, here]
        by_cases same : name = changed <;> simp [same]
      · rw [if_neg here, lookup_cons_eq_ite, inductionHypothesis]
        by_cases same : name = first
        · have different : name ≠ changed := fun equal => here (same.symm.trans equal)
          simp only [if_pos same, if_neg different]
        · simp only [if_neg same]

end Lookup
end FrameMachine
