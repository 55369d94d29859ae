import FrameMachine.Error

namespace FrameMachine

/-!
# Frames

A frame maps names to variables, and a variable is stored with its own name beside its
value.  The store holds the global frame, the stack of local frames and the temporary
frame that is being prepared.  A variable is looked up in the frame of its scope and
nowhere else.

An operation that changes the store may fail, and then it leaves behind what it did
before it failed.
-/

/-- A variable as it is stored. -/
structure Cell where
  name : String
  value : Value
deriving DecidableEq

/-- A frame: its variables under their names, each name once. -/
structure Frame where
  bindings : List (String × Cell)
deriving DecidableEq

namespace Frame

/-- The frame without variables. -/
def empty : Frame := ⟨[]⟩

/-- The variable under a name. -/
def cell? (frame : Frame) (name : String) : Option Cell :=
  frame.bindings.lookup name

/-- The value of the variable under a name. -/
def find? (frame : Frame) (name : String) : Option Value :=
  (frame.cell? name).map Cell.value

/-- Whether the frame has a variable under this name. -/
def contains (frame : Frame) (name : String) : Bool :=
  (frame.cell? name).isSome

/-- The number of variables. -/
def size (frame : Frame) : Nat :=
  frame.bindings.length

/-- The frame with a further variable. -/
def insert (frame : Frame) (name : String) (cell : Cell) : Frame :=
  ⟨(name, cell) :: frame.bindings⟩

/-- The frame with another value for a variable that it has.  The variable keeps the name
that is stored with it. -/
def update (frame : Frame) (name : String) (value : Value) : Frame :=
  ⟨frame.bindings.map fun binding =>
    if binding.1 = name then (binding.1, { binding.2 with value := value }) else binding⟩

/-- The variables by ascending name, as their names are stored with them. -/
def sorted (frame : Frame) : List Cell :=
  (frame.bindings.map Prod.snd).mergeSort fun left right => decide (left.name ≤ right.name)

end Frame

/-- The frames of a run.  The topmost local frame comes first. -/
structure FrameStore where
  global : Frame
  locals : List Frame
  temporary : Option Frame
deriving DecidableEq

namespace FrameStore

/-- The outcome of a change: the store after it or, with the error, the store that the
failure leaves behind. -/
abbrev Change : Type :=
  EStateM.Result Error FrameStore Unit

/-- The frames at the start of a run. -/
def initial : FrameStore := ⟨.empty, [], none⟩

/-- The frame of a scope, if there is one. -/
def frame? (store : FrameStore) : Scope → Option Frame
  | .global => some store.global
  | .localTop => store.locals.head?
  | .temporary => store.temporary

/-- The number of local frames. -/
def depth (store : FrameStore) : Nat :=
  store.locals.length

/-- The frame of a scope. -/
def frame (store : FrameStore) (scope : Scope) : Except Error Frame :=
  match store.frame? scope with
  | some frame => .ok frame
  | none => .error (.noFrame scope)

/-- The store with another frame for a scope that has one. -/
def setFrame (store : FrameStore) (scope : Scope) (frame : Frame) : FrameStore :=
  match scope with
  | .global => { store with global := frame }
  | .localTop => { store with locals := frame :: store.locals.tail }
  | .temporary => { store with temporary := some frame }

/-- Define a variable, which has no value yet. -/
def define (store : FrameStore) (v : Variable) : Change :=
  match store.frame v.scope with
  | .ok frame =>
      if frame.contains v.name then .error (.redefinition v) store
      else .ok () (store.setFrame v.scope (frame.insert v.name ⟨v.name, .uninitialized⟩))
  | .error error => .error error store

/-- A variable as it is stored. -/
def cell (store : FrameStore) (v : Variable) : Except Error Cell :=
  match store.frame v.scope with
  | .ok frame =>
      match frame.cell? v.name with
      | some cell => .ok cell
      | none => .error (.undefinedVariable v)
  | .error error => .error error

/-- The value of a variable, which may be the placeholder. -/
def peek (store : FrameStore) (v : Variable) : Except Error Value :=
  match store.cell v with
  | .ok cell => .ok cell.value
  | .error error => .error error

/-- The value of a variable that has one. -/
def read (store : FrameStore) (v : Variable) : Except Error Value :=
  match store.cell v with
  | .ok cell => if cell.value.isInitialized then .ok cell.value else .error (.missingValue v)
  | .error error => .error error

/-- Give a variable a value. -/
def assign (store : FrameStore) (v : Variable) (value : Value) : Change :=
  match store.frame v.scope with
  | .ok frame =>
      if frame.contains v.name then .ok () (store.setFrame v.scope (frame.update v.name value))
      else .error (.undefinedVariable v) store
  | .error error => .error error store

/-- Prepare an empty temporary frame in place of any other. -/
def create (store : FrameStore) : FrameStore :=
  { store with temporary := some .empty }

/-- Make the temporary frame the topmost local frame.  The place of the temporary frame is
cleared first. -/
def push (store : FrameStore) : Change :=
  let cleared := { store with temporary := none }
  match store.temporary with
  | some frame => .ok () { cleared with locals := frame :: cleared.locals }
  | none => .error (.noFrame .temporary) cleared

/-- Make the topmost local frame the temporary frame.  The frame is taken off the stack
first. -/
def pop (store : FrameStore) : Change :=
  let lowered := { store with locals := store.locals.tail }
  match store.locals.head? with
  | some frame => .ok () { lowered with temporary := some frame }
  | none => .error (.noFrame .localTop) lowered

end FrameStore
end FrameMachine
