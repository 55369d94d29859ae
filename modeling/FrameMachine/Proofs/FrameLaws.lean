import FrameMachine.Proofs.Frames

namespace FrameMachine

/-!
# The laws of the frame store

A sequence of operations, of which any may fail, leads from the store at the start of a run to a
store in which every frame is a map: no name is bound twice, and a variable carries the name under
which it is stored.  In such a store, and with no fallback from one scope to another, the outcome
of each operation can be told beforehand.  An operation that fails leaves everything as it was, and
one that defines or assigns a variable changes the answer for this variable alone.
-/

/-! ## Frames as maps -/

namespace Frame

/-- No name is bound twice, and the variable under a name carries this name. -/
structure IsMap (frame : Frame) : Prop where
  distinct : (frame.bindings.map Prod.fst).Nodup
  named : ∀ name cell, (name, cell) ∈ frame.bindings → cell.name = name

variable {frame : Frame} {name : String} {cell : Cell} {value : Value}

theorem isMap_empty : empty.IsMap where
  distinct := List.nodup_nil
  named _ _ member := absurd member List.not_mem_nil

theorem mem_names_iff : name ∈ frame.bindings.map Prod.fst ↔ frame.contains name = true :=
  Lookup.isSome_lookup_iff.symm

theorem IsMap.insert (isMap : frame.IsMap) (absent : frame.contains name = false) :
    (frame.insert name ⟨name, value⟩).IsMap where
  distinct := by
    apply List.nodup_cons.mpr
    constructor
    · rw [mem_names_iff, absent]
      exact Bool.false_ne_true
    · exact isMap.distinct
  named key cell member := by
    rcases List.mem_cons.mp member with same | old
    · cases same
      rfl
    · exact isMap.named key cell old

/-- An assignment changes neither a name nor the variable's own copy of it. -/
theorem IsMap.update (isMap : frame.IsMap) : (frame.update name value).IsMap where
  distinct := by
    have same : (frame.update name value).bindings.map Prod.fst = frame.bindings.map Prod.fst := by
      simp only [Frame.update, List.map_map]
      apply List.map_congr_left
      intro binding _
      by_cases here : binding.1 = name <;> simp [here]
    rw [same]
    exact isMap.distinct
  named key cell member := by
    rcases List.mem_map.mp member with ⟨⟨oldKey, oldCell⟩, old, changed⟩
    have agrees := isMap.named oldKey oldCell old
    dsimp only at changed
    split at changed <;> cases changed <;> exact agrees

theorem IsMap.cell?_eq_some_iff (isMap : frame.IsMap) :
    frame.cell? name = some cell ↔ (name, cell) ∈ frame.bindings :=
  Lookup.lookup_eq_some_iff_mem isMap.distinct

/-- A variable is found under its own name. -/
theorem IsMap.name_eq (isMap : frame.IsMap) (found : frame.cell? name = some cell) :
    cell.name = name :=
  isMap.named name cell (isMap.cell?_eq_some_iff.mp found)

theorem IsMap.find?_eq_some_iff (isMap : frame.IsMap) :
    frame.find? name = some value ↔ frame.cell? name = some ⟨name, value⟩ := by
  rw [find?, Option.map_eq_some_iff]
  constructor
  · rintro ⟨⟨stored, _⟩, found, rfl⟩
    cases isMap.name_eq found
    exact found
  · intro found
    exact ⟨_, found, rfl⟩

/-- What is listed is what is found. -/
theorem IsMap.mem_sorted_iff (isMap : frame.IsMap) :
    ⟨name, value⟩ ∈ frame.sorted ↔ frame.find? name = some value := by
  rw [sorted, List.mem_mergeSort, isMap.find?_eq_some_iff, isMap.cell?_eq_some_iff, List.mem_map]
  constructor
  · rintro ⟨⟨key, cell⟩, member, rfl⟩
    cases isMap.named _ _ member
    exact member
  · intro member
    exact ⟨_, member, rfl⟩

/-- Names are listed once. -/
theorem IsMap.nodup_sorted (isMap : frame.IsMap) : (frame.sorted.map Cell.name).Nodup := by
  have names : (frame.bindings.map Prod.snd).map Cell.name = frame.bindings.map Prod.fst := by
    rw [List.map_map]
    apply List.map_congr_left
    rintro ⟨key, cell⟩ member
    exact isMap.named key cell member
  have rearranged := (List.mergeSort_perm (frame.bindings.map Prod.snd)
    fun left right => decide (left.name ≤ right.name)).map Cell.name
  exact rearranged.nodup_iff.mpr (names ▸ isMap.distinct)

end Frame

/-! ## Stores of maps -/

namespace FrameStore

variable {store after : FrameStore} {v other : Variable} {cell : Cell} {value : Value}

/-- All frames of the store. -/
def frames (store : FrameStore) : List Frame :=
  store.global :: (store.locals ++ store.temporary.toList)

/-- Every frame of the store is a map. -/
structure HoldsMaps (store : FrameStore) : Prop where
  global : store.global.IsMap
  locals : ∀ frame ∈ store.locals, frame.IsMap
  temporary : ∀ frame, store.temporary = some frame → frame.IsMap

theorem holdsMaps_initial : initial.HoldsMaps where
  global := Frame.isMap_empty
  locals _ member := nomatch member
  temporary _ present := nomatch present

theorem HoldsMaps.of_mem (maps : store.HoldsMaps) {frame : Frame}
    (member : frame ∈ store.frames) : frame.IsMap := by
  rcases List.mem_cons.mp member with same | further
  · rw [same]
    exact maps.global
  · rcases List.mem_append.mp further with inLocals | inTemporary
    · exact maps.locals frame inLocals
    · exact maps.temporary frame (Option.mem_toList.mp inTemporary)

theorem HoldsMaps.of_frame? (maps : store.HoldsMaps) {scope : Scope} {frame : Frame}
    (present : store.frame? scope = some frame) : frame.IsMap := by
  cases scope with
  | global =>
      cases present
      exact maps.global
  | localTop => exact maps.locals frame (List.mem_of_head? present)
  | temporary => exact maps.temporary frame present

theorem HoldsMaps.setFrame (maps : store.HoldsMaps) {frame : Frame} (new : frame.IsMap)
    (scope : Scope) : (store.setFrame scope frame).HoldsMaps := by
  cases scope with
  | global => exact ⟨new, maps.locals, maps.temporary⟩
  | localTop =>
      refine ⟨maps.global, ?_, maps.temporary⟩
      intro old member
      rcases List.mem_cons.mp member with same | below
      · rw [same]
        exact new
      · exact maps.locals old (List.mem_of_mem_tail below)
  | temporary =>
      refine ⟨maps.global, maps.locals, ?_⟩
      intro old same
      cases same
      exact new

theorem HoldsMaps.define (maps : store.HoldsMaps) (defined : store.define v = .ok () after) :
    after.HoldsMaps := by
  rcases define_eq_ok_iff.mp defined with ⟨frame, present, absent, rfl⟩
  exact maps.setFrame ((maps.of_frame? present).insert absent) v.scope

theorem HoldsMaps.assign (maps : store.HoldsMaps)
    (assigned : store.assign v value = .ok () after) : after.HoldsMaps := by
  rcases assign_eq_ok_iff.mp assigned with ⟨frame, present, -, rfl⟩
  exact maps.setFrame (maps.of_frame? present).update v.scope

theorem HoldsMaps.create (maps : store.HoldsMaps) : store.create.HoldsMaps :=
  maps.setFrame Frame.isMap_empty .temporary

theorem HoldsMaps.push (maps : store.HoldsMaps) (pushed : store.push = .ok () after) :
    after.HoldsMaps := by
  rcases push_eq_ok_iff.mp pushed with ⟨frame, present, rfl⟩
  refine ⟨maps.global, ?_, fun _ absent => nomatch absent⟩
  exact List.forall_mem_cons.mpr ⟨maps.temporary frame present, maps.locals⟩

theorem HoldsMaps.pop (maps : store.HoldsMaps) (popped : store.pop = .ok () after) :
    after.HoldsMaps := by
  rcases pop_eq_ok_iff.mp popped with ⟨frame, rest, stack, rfl⟩
  have locals := maps.locals
  rw [stack, List.forall_mem_cons] at locals
  refine ⟨maps.global, locals.2, ?_⟩
  intro old same
  cases same
  exact locals.1

/-! ## What is found in a store -/

/-- Only a local frame and a temporary frame can be missing. -/
theorem frame?_eq_none_iff {scope : Scope} :
    store.frame? scope = none ↔
      scope = .localTop ∧ store.locals = [] ∨ scope = .temporary ∧ store.temporary = none := by
  cases scope <;> simp [frame?]

theorem HoldsMaps.name_eq (maps : store.HoldsMaps) (found : store.cell v = .ok cell) :
    cell.name = v.name := by
  rcases cell_eq_ok_iff.mp found with ⟨frame, present, stored⟩
  exact (maps.of_frame? present).name_eq stored

/-- Replacing the frame of a scope by one that differs in the answer for one name. -/
theorem cell_setFrame {old frame : Frame} (present : store.frame? v.scope = some old)
    (answers : ∀ name, frame.cell? name = if name = v.name then some cell else old.cell? name) :
    (store.setFrame v.scope frame).cell v = .ok cell ∧
      ∀ other ≠ v, (store.setFrame v.scope frame).cell other = store.cell other := by
  constructor
  · simp [FrameStore.cell, FrameStore.frame, frame?_setFrame, answers]
  · intro other different
    unfold FrameStore.cell FrameStore.frame
    rw [frame?_setFrame]
    by_cases scope : other.scope = v.scope
    · have name : other.name ≠ v.name := by
        intro same
        rcases other with ⟨_, _⟩
        rcases v with ⟨_, _⟩
        cases scope
        cases same
        exact different rfl
      rw [if_pos scope, scope, present]
      simp [answers, name]
    · rw [if_neg scope]

theorem cell_define (defined : store.define v = .ok () after) :
    after.cell v = .ok ⟨v.name, .uninitialized⟩ ∧
      ∀ other ≠ v, after.cell other = store.cell other := by
  rcases define_eq_ok_iff.mp defined with ⟨frame, present, -, rfl⟩
  apply cell_setFrame present
  intro name
  exact frame.cell?_insert name v.name ⟨v.name, .uninitialized⟩

/-- The variable that is assigned to was stored with its name, and still is. -/
theorem HoldsMaps.cell_assign (maps : store.HoldsMaps)
    (assigned : store.assign v value = .ok () after) :
    after.cell v = .ok ⟨v.name, value⟩ ∧ ∀ other ≠ v, after.cell other = store.cell other := by
  rcases assign_eq_ok_iff.mp assigned with ⟨frame, present, has, rfl⟩
  rcases Option.isSome_iff_exists.mp has with ⟨⟨stored, old⟩, found⟩
  obtain rfl : stored = v.name := (maps.of_frame? present).name_eq found
  apply cell_setFrame present
  intro name
  rw [frame.cell?_update name v.name value]
  by_cases same : name = v.name
  · rw [if_pos same, if_pos same, same, found, Option.map_some]
  · rw [if_neg same, if_neg same]

/-- Popping undoes pushing. -/
theorem pop_of_push (pushed : store.push = .ok () after) : after.pop = .ok () store := by
  rcases store with ⟨global, locals, temporary⟩
  cases temporary with
  | none => cases pushed
  | some frame =>
      cases pushed
      rfl

end FrameStore

/-! ## Sequences of operations -/

/-- What can be done with a store. -/
inductive FrameOperation where
  | define (v : Variable)
  | get (v : Variable)
  | assign (v : Variable) (value : Value)
  | peek (v : Variable)
  | read (v : Variable)
  | create
  | push
  | pop

namespace FrameOperation

/-- What an operation that ends well answers. -/
inductive Answer where
  | done
  | cell (cell : Cell)
  | value (value : Value)

/-- The outcome of an operation: its answer or its error, and the store that it leaves. -/
abbrev Outcome : Type :=
  EStateM.Result Error FrameStore Answer

/-- The outcome of a change. -/
def changing : FrameStore.Change → Outcome
  | .ok () after => .ok .done after
  | .error error after => .error error after

/-- The outcome of a question. -/
def answering (store : FrameStore) : Except Error Answer → Outcome
  | .ok answer => .ok answer store
  | .error error => .error error store

/-- Perform an operation. -/
def run (store : FrameStore) : FrameOperation → Outcome
  | .define v => changing (store.define v)
  | .get v => answering store ((store.cell v).map .cell)
  | .assign v value => changing (store.assign v value)
  | .peek v => answering store ((store.peek v).map .value)
  | .read v => answering store ((store.read v).map .value)
  | .create => changing (.ok () store.create)
  | .push => changing store.push
  | .pop => changing store.pop

/-- The errors with which the operation can fail on a store, and when it does. -/
def FailsWith (store : FrameStore) (error : Error) : FrameOperation → Prop
  | .define v => error = .noFrame v.scope ∧ store.frame? v.scope = none ∨
      error = .redefinition v ∧ store.Has v
  | .get v | .assign v _ | .peek v => store.Misses v error
  | .read v => store.Misses v error ∨ error = .missingValue v ∧ store.peek v = .ok .uninitialized
  | .create => False
  | .push => error = .noFrame .temporary ∧ store.temporary = none
  | .pop => error = .noFrame .localTop ∧ store.locals = []

/-- The value that a variable has after the operation, if the operation gives it one. -/
def written? : FrameOperation → Option (Variable × Value)
  | .define v => some (v, .uninitialized)
  | .assign v value => some (v, value)
  | _ => none

section Outcomes

variable {store after : FrameStore} {error : Error} {answer : Answer} {operation : FrameOperation}

theorem changing_eq_ok_iff {change : FrameStore.Change} :
    changing change = .ok answer after ↔ change = .ok () after ∧ answer = .done := by
  cases change <;> simp [changing, and_comm, @eq_comm _ answer]

theorem changing_eq_error_iff {change : FrameStore.Change} :
    changing change = .error error after ↔ change = .error error after := by
  cases change <;> simp [changing]

theorem answering_eq_ok_iff {asked : Except Error Answer} :
    answering store asked = .ok answer after ↔ asked = .ok answer ∧ after = store := by
  cases asked <;> simp [answering, @eq_comm _ after]

theorem answering_eq_error_iff {α : Type} {asked : Except Error α} {wrap : α → Answer} :
    answering store (asked.map wrap) = .error error after ↔
      asked = .error error ∧ after = store := by
  cases asked <;> simp [answering, Except.map, @eq_comm _ after]

/-- Whether an operation fails, and how, can be seen in the store, and a failure leaves the store
as it was. -/
theorem run_eq_error_iff :
    operation.run store = .error error after ↔ operation.FailsWith store error ∧ after = store := by
  cases operation with
  | define v => exact changing_eq_error_iff.trans FrameStore.define_eq_error_iff
  | get v => exact answering_eq_error_iff.trans (and_congr_left' FrameStore.cell_eq_error_iff)
  | assign v value => exact changing_eq_error_iff.trans FrameStore.assign_eq_error_iff
  | peek v => exact answering_eq_error_iff.trans (and_congr_left' FrameStore.peek_eq_error_iff)
  | read v => exact answering_eq_error_iff.trans (and_congr_left' FrameStore.read_eq_error_iff)
  | create => simp [run, changing_eq_error_iff, FailsWith]
  | push => exact changing_eq_error_iff.trans FrameStore.push_eq_error_iff
  | pop => exact changing_eq_error_iff.trans FrameStore.pop_eq_error_iff

/-- Defining and assigning change the answer for one variable. -/
theorem cell_of_written? {v : Variable} {value : Value} (maps : store.HoldsMaps)
    (writes : operation.written? = some (v, value))
    (done : operation.run store = .ok answer after) :
    after.cell v = .ok ⟨v.name, value⟩ ∧ ∀ other ≠ v, after.cell other = store.cell other := by
  cases operation with
  | define defined =>
      cases writes
      exact FrameStore.cell_define (changing_eq_ok_iff.mp done).1
  | assign assigned given =>
      cases writes
      exact maps.cell_assign (changing_eq_ok_iff.mp done).1
  | _ => cases writes

/-- An operation keeps all frames maps. -/
theorem holdsMaps_of_run (maps : store.HoldsMaps) (done : operation.run store = .ok answer after) :
    after.HoldsMaps := by
  cases operation with
  | define v => exact maps.define (changing_eq_ok_iff.mp done).1
  | assign v value => exact maps.assign (changing_eq_ok_iff.mp done).1
  | get v | peek v | read v => exact (answering_eq_ok_iff.mp done).2 ▸ maps
  | create =>
      cases done
      exact maps.create
  | push => exact maps.push (changing_eq_ok_iff.mp done).1
  | pop => exact maps.pop (changing_eq_ok_iff.mp done).1

end Outcomes
end FrameOperation

namespace FrameStore

/-- The store after an operation, whether it fails or not. -/
def perform (store : FrameStore) (operation : FrameOperation) : FrameStore :=
  match operation.run store with
  | .ok _ after | .error _ after => after

theorem HoldsMaps.perform {store : FrameStore} (maps : store.HoldsMaps)
    (operation : FrameOperation) : (store.perform operation).HoldsMaps := by
  unfold FrameStore.perform
  cases ending : operation.run store with
  | ok answer after => exact FrameOperation.holdsMaps_of_run maps ending
  | error error after => exact (FrameOperation.run_eq_error_iff.mp ending).2 ▸ maps

/-- The store after a sequence of operations on new frames. -/
def reached (operations : List FrameOperation) : FrameStore :=
  operations.foldl perform initial

theorem holdsMaps_reached (operations : List FrameOperation) : (reached operations).HoldsMaps := by
  have kept : ∀ store : FrameStore, store.HoldsMaps →
      (operations.foldl FrameStore.perform store).HoldsMaps := by
    induction operations with
    | nil => exact fun _ maps => maps
    | cons operation operations inductionHypothesis =>
        intro store maps
        exact inductionHypothesis _ (maps.perform operation)
  exact kept initial holdsMaps_initial

/-- Frames are maps with scopes, whatever was done with them.  After any sequence of operations,
failed ones among them, every variable is stored with the name under which it stands, and a frame
lists each of its variables once.  Only a local frame and a temporary frame can be missing.  Every
operation fails with exactly the errors named by `FailsWith`, and then the store is what it was.

A variable that was defined has no value, one that was assigned to has that value, and any other
variable, in the same frame or in another one, is stored as before.  What is stored is what is
answered.  Popping undoes pushing. -/
theorem reached_frames_are_scoped_maps (operations : List FrameOperation) :
    let store := reached operations
    (∀ frame ∈ store.frames,
      (∀ name cell, (name, cell) ∈ frame.bindings → cell.name = name) ∧
      (frame.sorted.map Cell.name).Nodup ∧
      ∀ name value, ⟨name, value⟩ ∈ frame.sorted ↔ frame.find? name = some value) ∧
    (∀ scope, store.frame? scope = none ↔
      scope = .localTop ∧ store.locals = [] ∨ scope = .temporary ∧ store.temporary = none) ∧
    (∀ (operation : FrameOperation) error after,
      operation.run store = .error error after ↔
        operation.FailsWith store error ∧ after = store) ∧
    (∀ (operation : FrameOperation) v value answer after,
      operation.written? = some (v, value) → operation.run store = .ok answer after →
        after.cell v = .ok ⟨v.name, value⟩ ∧
          ∀ other ≠ v, after.cell other = store.cell other) ∧
    (∀ v cell, store.cell v = .ok cell → cell.name = v.name ∧
      (FrameOperation.get v).run store = .ok (.cell cell) store ∧
      (FrameOperation.peek v).run store = .ok (.value cell.value) store ∧
      (cell.value.isInitialized = true →
        (FrameOperation.read v).run store = .ok (.value cell.value) store)) ∧
    ∀ middle, FrameOperation.push.run store = .ok .done middle →
      FrameOperation.pop.run middle = .ok .done store := by
  intro store
  have maps : store.HoldsMaps := holdsMaps_reached operations
  refine ⟨?_, ?_, ?_, ?_, ?_, ?_⟩
  · intro frame member
    have isMap := maps.of_mem member
    exact ⟨isMap.named, isMap.nodup_sorted, fun name value => isMap.mem_sorted_iff⟩
  · intro scope
    exact frame?_eq_none_iff
  · intro operation error after
    exact FrameOperation.run_eq_error_iff
  · intro operation v value answer after writes done
    exact FrameOperation.cell_of_written? maps writes done
  · intro v cell found
    have peeked : store.peek v = .ok cell.value := by rw [peek, found]
    refine ⟨maps.name_eq found, ?_, ?_, fun initialized => ?_⟩
    · rw [FrameOperation.run, found]
      rfl
    · rw [FrameOperation.run, peeked]
      rfl
    · rw [FrameOperation.run, read_eq_ok_iff_peek.mpr ⟨peeked, initialized⟩]
      rfl
  · intro middle done
    have pushed := (FrameOperation.changing_eq_ok_iff.mp done).1
    rw [FrameOperation.run, pop_of_push pushed]
    rfl

/-- One name in three frames, after an attempt to define it twice in one of them.  An assignment
to the global variable leaves the local one alone, and the temporary frame can be pushed. -/
theorem reached_frames_are_scoped_maps_shadowed :
    let store := reached
      [.create, .define ⟨.temporary, "x"⟩, .assign ⟨.temporary, "x"⟩ (.int 1),
        .define ⟨.temporary, "x"⟩, .push, .define ⟨.global, "x"⟩, .create]
    let assignment := FrameOperation.assign ⟨.global, "x"⟩ (.int 2)
    let assigned := store.perform assignment
    let pushed := store.perform .push
    assignment.written? = some (⟨.global, "x"⟩, .int 2) ∧
      assignment.run store = .ok .done assigned ∧
      assigned.cell ⟨.global, "x"⟩ = .ok ⟨"x", .int 2⟩ ∧
      assigned.cell ⟨.localTop, "x"⟩ = .ok ⟨"x", .int 1⟩ ∧
      (FrameOperation.read ⟨.localTop, "x"⟩).run store = .ok (.value (.int 1)) store ∧
      FrameOperation.push.run store = .ok .done pushed ∧
      FrameOperation.pop.run pushed = .ok .done store ∧
      (FrameOperation.define ⟨.localTop, "x"⟩).run store =
        .error (.redefinition ⟨.localTop, "x"⟩) store := by
  intro store assignment assigned pushed
  rcases reached_frames_are_scoped_maps
    [.create, .define ⟨.temporary, "x"⟩, .assign ⟨.temporary, "x"⟩ (.int 1),
      .define ⟨.temporary, "x"⟩, .push, .define ⟨.global, "x"⟩, .create] with
    ⟨-, -, fails, writes, answers, pushes⟩
  have done : assignment.run store = .ok .done assigned := rfl
  have moved : FrameOperation.push.run store = .ok .done pushed := rfl
  have shadowed : store.cell ⟨.localTop, "x"⟩ = .ok ⟨"x", .int 1⟩ := rfl
  rcases writes assignment _ _ _ _ rfl done with ⟨here, elsewhere⟩
  rcases answers _ _ shadowed with ⟨-, -, -, reads⟩
  refine ⟨rfl, done, here, ?_, reads rfl, moved, pushes _ moved, ?_⟩
  · rw [elsewhere _ (by decide), shadowed]
  · exact (fails _ _ _).mpr ⟨Or.inr ⟨rfl, _, rfl, rfl⟩, rfl⟩

end FrameStore
end FrameMachine
