import FrameMachine.Frame
import FrameMachine.Proofs.Lookup

namespace FrameMachine

/-!
# Frames seen through look-up

A frame is known by what it answers to a name, and a store by the frame that each scope
has.  Inserting and updating change the answer to one name, and replacing the frame of a
scope changes no other scope.  A variable is readable if it exists and has a value.  No
definition and no assignment of a value takes that from a variable.

Whether an operation fails, and with which error, can be seen in the store, and a change that
fails leaves the store as it was.
-/

namespace Frame

variable (frame : Frame) (name other : String) (cell : Cell) (value : Value)

theorem cell?_insert :
    (frame.insert other cell).cell? name = if name = other then some cell else frame.cell? name :=
  Lookup.lookup_cons_eq_ite frame.bindings other cell name

theorem cell?_update :
    (frame.update other value).cell? name =
      if name = other then (frame.cell? name).map fun old => { old with value := value }
      else frame.cell? name :=
  Lookup.lookup_map_ite frame.bindings other (fun old => { old with value := value }) name

theorem find?_insert :
    (frame.insert other cell).find? name =
      if name = other then some cell.value else frame.find? name := by
  rw [find?, cell?_insert, find?, apply_ite (Option.map Cell.value), Option.map_some]

theorem find?_update :
    (frame.update other value).find? name =
      if name = other then (frame.find? name).map fun _ => value else frame.find? name := by
  rw [find?, cell?_update, find?, apply_ite (Option.map Cell.value), Option.map_map, Option.map_map]
  rfl

theorem contains_eq_isSome_find? : frame.contains name = (frame.find? name).isSome := by
  rw [contains, find?, Option.isSome_map]

/-- Updating a variable that the frame has. -/
theorem find?_update_of_contains (has : frame.contains other = true) :
    (frame.update other value).find? name =
      if name = other then some value else frame.find? name := by
  rw [contains_eq_isSome_find?] at has
  rw [find?_update]
  by_cases same : name = other
  · rcases Option.isSome_iff_exists.mp has with ⟨old, found⟩
    rw [if_pos same, if_pos same, same, found, Option.map_some]
  · rw [if_neg same, if_neg same]

/-- The frame has a variable of this name, and the variable has a value. -/
def HasValue : Prop :=
  ∃ value, frame.find? name = some value ∧ value.isInitialized = true

variable {frame name other cell value}

/-- A definition adds a variable where there was none. -/
theorem HasValue.insert (has : frame.HasValue name) (absent : frame.contains other = false) :
    (frame.insert other cell).HasValue name := by
  obtain ⟨old, found, initialized⟩ := has
  refine ⟨old, ?_, initialized⟩
  have different : name ≠ other := by
    intro same
    rw [contains_eq_isSome_find?, ← same, found] at absent
    cases absent
  rw [find?_insert, if_neg different, found]

/-- An assignment of a value takes none away. -/
theorem HasValue.update (has : frame.HasValue name) (initialized : value.isInitialized = true) :
    (frame.update other value).HasValue name := by
  obtain ⟨old, found, oldInitialized⟩ := has
  unfold HasValue
  rw [find?_update, found]
  by_cases same : name = other
  · exact ⟨value, if_pos same, initialized⟩
  · exact ⟨old, if_neg same, oldInitialized⟩

end Frame

namespace FrameStore

variable {store after : FrameStore} {v : Variable} {value : Value}

theorem frame?_setFrame (store : FrameStore) (scope other : Scope) (frame : Frame) :
    (store.setFrame scope frame).frame? other =
      if other = scope then some frame else store.frame? other := by
  cases scope <;> cases other <;> rfl

theorem define_eq_ok_iff :
    store.define v = .ok () after ↔
      ∃ frame, store.frame? v.scope = some frame ∧ frame.contains v.name = false ∧
        after = store.setFrame v.scope (frame.insert v.name ⟨v.name, .uninitialized⟩) := by
  unfold define FrameStore.frame
  cases store.frame? v.scope with
  | none => simp
  | some frame =>
      simp only [Option.some.injEq, exists_eq_left']
      cases frame.contains v.name with
      | true => simp
      | false =>
          simp only [Bool.false_eq_true, if_false, EStateM.Result.ok.injEq, true_and]
          exact eq_comm

theorem assign_eq_ok_iff :
    store.assign v value = .ok () after ↔
      ∃ frame, store.frame? v.scope = some frame ∧ frame.contains v.name = true ∧
        after = store.setFrame v.scope (frame.update v.name value) := by
  unfold assign FrameStore.frame
  cases store.frame? v.scope with
  | none => simp
  | some frame =>
      simp only [Option.some.injEq, exists_eq_left']
      cases frame.contains v.name with
      | false => simp
      | true =>
          simp only [if_true, EStateM.Result.ok.injEq, true_and]
          exact eq_comm

theorem cell_eq_ok_iff {cell : Cell} :
    store.cell v = .ok cell ↔
      ∃ frame, store.frame? v.scope = some frame ∧ frame.cell? v.name = some cell := by
  unfold FrameStore.cell FrameStore.frame
  cases store.frame? v.scope with
  | none => simp
  | some frame => cases found : frame.cell? v.name <;> simp [found]

theorem peek_eq_ok_iff :
    store.peek v = .ok value ↔
      ∃ frame, store.frame? v.scope = some frame ∧ frame.find? v.name = some value := by
  have asked : store.peek v = .ok value ↔ ∃ cell, store.cell v = .ok cell ∧ cell.value = value := by
    unfold peek
    cases store.cell v <;> simp
  simp only [asked, cell_eq_ok_iff, Frame.find?, Option.map_eq_some_iff]
  constructor
  · rintro ⟨cell, ⟨frame, present, found⟩, same⟩
    exact ⟨frame, present, cell, found, same⟩
  · rintro ⟨frame, present, cell, found, same⟩
    exact ⟨cell, ⟨frame, present, found⟩, same⟩

theorem read_eq_ok_iff_peek :
    store.read v = .ok value ↔ store.peek v = .ok value ∧ value.isInitialized = true := by
  unfold read peek
  cases store.cell v with
  | error error => simp
  | ok cell =>
      simp only [Except.ok.injEq]
      cases initialized : cell.value.isInitialized with
      | true =>
          simp only [if_true, Except.ok.injEq]
          exact ⟨fun equal => ⟨equal, equal ▸ initialized⟩, fun both => both.1⟩
      | false =>
          simp only [Bool.false_eq_true, if_false, reduceCtorEq, false_iff, not_and]
          rintro rfl
          simp [initialized]

theorem read_eq_ok_iff :
    store.read v = .ok value ↔
      ∃ frame, store.frame? v.scope = some frame ∧ frame.find? v.name = some value ∧
        value.isInitialized = true := by
  rw [read_eq_ok_iff_peek, peek_eq_ok_iff]
  constructor
  · rintro ⟨⟨frame, present, found⟩, initialized⟩
    exact ⟨frame, present, found, initialized⟩
  · rintro ⟨frame, present, found, initialized⟩
    exact ⟨⟨frame, present, found⟩, initialized⟩

/-- The variable can be read: it exists and has a value. -/
def Readable (store : FrameStore) (v : Variable) : Prop :=
  ∃ value, store.read v = .ok value

theorem readable_iff :
    store.Readable v ↔
      ∃ frame, store.frame? v.scope = some frame ∧ frame.HasValue v.name := by
  unfold Readable Frame.HasValue
  simp only [read_eq_ok_iff]
  constructor
  · rintro ⟨value, frame, present, found⟩
    exact ⟨frame, present, value, found⟩
  · rintro ⟨frame, present, value, found⟩
    exact ⟨value, frame, present, found⟩

/-- Replacing a frame by one that has at least its values. -/
theorem Readable.setFrame {scope : Scope} {old new : Frame} (readable : store.Readable v)
    (present : store.frame? scope = some old)
    (keeps : ∀ name, old.HasValue name → new.HasValue name) :
    (store.setFrame scope new).Readable v := by
  obtain ⟨frame, found, has⟩ := readable_iff.mp readable
  rw [readable_iff, frame?_setFrame]
  by_cases same : v.scope = scope
  · rw [same, present, Option.some.injEq] at found
    rw [if_pos same]
    exact ⟨new, rfl, keeps v.name (found ▸ has)⟩
  · rw [if_neg same]
    exact ⟨frame, found, has⟩

theorem Readable.define {u : Variable} (readable : store.Readable v)
    (defined : store.define u = .ok () after) : after.Readable v := by
  obtain ⟨frame, present, absent, rfl⟩ := define_eq_ok_iff.mp defined
  exact readable.setFrame present fun _ has => has.insert absent

theorem Readable.assign {u : Variable} (readable : store.Readable v)
    (initialized : value.isInitialized = true) (assigned : store.assign u value = .ok () after) :
    after.Readable v := by
  obtain ⟨frame, present, -, rfl⟩ := assign_eq_ok_iff.mp assigned
  exact readable.setFrame present fun _ has => has.update initialized

theorem push_eq_ok_iff :
    store.push = .ok () after ↔
      ∃ frame, store.temporary = some frame ∧
        after = ⟨store.global, frame :: store.locals, none⟩ := by
  unfold push
  cases store.temporary <;> simp [@eq_comm _ after]

theorem pop_eq_ok_iff :
    store.pop = .ok () after ↔
      ∃ frame rest, store.locals = frame :: rest ∧ after = ⟨store.global, rest, some frame⟩ := by
  unfold pop
  cases store.locals with
  | nil => simp
  | cons frame rest =>
      simp only [List.head?_cons, List.tail_cons, EStateM.Result.ok.injEq, true_and,
        List.cons.injEq]
      constructor
      · rintro rfl
        exact ⟨frame, rest, ⟨rfl, rfl⟩, rfl⟩
      · rintro ⟨_, _, ⟨rfl, rfl⟩, rfl⟩
        rfl

theorem push_global (pushed : store.push = .ok () after) : after.global = store.global := by
  rcases push_eq_ok_iff.mp pushed with ⟨frame, -, rfl⟩
  rfl

theorem pop_global (popped : store.pop = .ok () after) : after.global = store.global := by
  rcases pop_eq_ok_iff.mp popped with ⟨frame, rest, -, rfl⟩
  rfl

/-- A variable of the global frame depends on no other frame. -/
theorem Readable.of_global (readable : store.Readable v) (scope : v.scope = .global)
    (same : after.global = store.global) : after.Readable v := by
  rw [readable_iff, scope] at readable ⊢
  rw [frame?, same]
  exact readable

/-! ## Failures -/

/-- The scope of the variable has a frame, and the frame has the variable. -/
def Has (store : FrameStore) (v : Variable) : Prop :=
  ∃ frame, store.frame? v.scope = some frame ∧ frame.contains v.name = true

/-- The scope of the variable has a frame, and the frame has not got the variable. -/
def Lacks (store : FrameStore) (v : Variable) : Prop :=
  ∃ frame, store.frame? v.scope = some frame ∧ frame.contains v.name = false

/-- The error of looking for a variable that is not there. -/
def Misses (store : FrameStore) (v : Variable) (error : Error) : Prop :=
  error = .noFrame v.scope ∧ store.frame? v.scope = none ∨
    error = .undefinedVariable v ∧ store.Lacks v

variable {error : Error}

theorem define_eq_error_iff :
    store.define v = .error error after ↔
      (error = .noFrame v.scope ∧ store.frame? v.scope = none ∨
        error = .redefinition v ∧ store.Has v) ∧ after = store := by
  unfold define FrameStore.frame Has
  cases store.frame? v.scope with
  | none => simp [@eq_comm _ error, @eq_comm _ after]
  | some frame =>
      cases present : frame.contains v.name <;>
        simp [present, @eq_comm _ error, @eq_comm _ after]

theorem assign_eq_error_iff :
    store.assign v value = .error error after ↔ store.Misses v error ∧ after = store := by
  unfold assign FrameStore.frame Misses Lacks
  cases store.frame? v.scope with
  | none => simp [@eq_comm _ error, @eq_comm _ after]
  | some frame =>
      cases present : frame.contains v.name <;>
        simp [present, @eq_comm _ error, @eq_comm _ after]

theorem cell_eq_error_iff : store.cell v = .error error ↔ store.Misses v error := by
  unfold FrameStore.cell FrameStore.frame Misses Lacks Frame.contains
  cases store.frame? v.scope with
  | none => simp [@eq_comm _ error]
  | some frame => cases found : frame.cell? v.name <;> simp [found, @eq_comm _ error]

theorem peek_eq_error_iff : store.peek v = .error error ↔ store.Misses v error := by
  rw [← cell_eq_error_iff, peek]
  cases store.cell v <;> simp

theorem read_eq_error_iff :
    store.read v = .error error ↔
      store.Misses v error ∨ error = .missingValue v ∧ store.peek v = .ok .uninitialized := by
  rw [← cell_eq_error_iff, read, peek]
  cases store.cell v with
  | error missed => simp
  | ok cell =>
      rcases cell with ⟨name, value⟩
      cases value <;> simp [Value.isInitialized, Value.kind, @eq_comm _ error]

/-- The place of the temporary frame is cleared in vain if it is empty. -/
theorem push_eq_error_iff :
    store.push = .error error after ↔
      (error = .noFrame .temporary ∧ store.temporary = none) ∧ after = store := by
  rcases store with ⟨global, locals, _ | frame⟩ <;>
    simp [push, @eq_comm _ error, @eq_comm _ after]

/-- An empty stack is not changed by taking off its top. -/
theorem pop_eq_error_iff :
    store.pop = .error error after ↔
      (error = .noFrame .localTop ∧ store.locals = []) ∧ after = store := by
  rcases store with ⟨global, _ | ⟨top, rest⟩, temporary⟩ <;>
    simp [pop, @eq_comm _ error, @eq_comm _ after]

/-- Whether a change is made altogether or not at all. -/
def IsAtomic (change : FrameStore → Change) : Prop :=
  ∀ store error after, change store = .error error after → after = store

theorem isAtomic_define (v : Variable) : IsAtomic fun store => store.define v :=
  fun _ _ _ failed => (define_eq_error_iff.mp failed).2

theorem isAtomic_assign (v : Variable) (value : Value) :
    IsAtomic fun store => store.assign v value :=
  fun _ _ _ failed => (assign_eq_error_iff.mp failed).2

theorem isAtomic_create : IsAtomic fun store => .ok () store.create := by
  intro store error after failed
  cases failed

theorem isAtomic_push : IsAtomic push :=
  fun _ _ _ failed => (push_eq_error_iff.mp failed).2

theorem isAtomic_pop : IsAtomic pop :=
  fun _ _ _ failed => (pop_eq_error_iff.mp failed).2

end FrameStore
end FrameMachine
