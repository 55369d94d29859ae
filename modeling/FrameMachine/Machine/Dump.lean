import FrameMachine.Machine.State

namespace FrameMachine

/-!
# Dumps

A dump shows the state of a machine in words: the visible frames with their
variables by name, the operand stack from its bottom, and the depth of the call
stack.
-/

namespace Dump

/-- A line for each variable of a frame. -/
def bindingLines (frame : Frame) : String :=
  String.join (frame.sorted.map fun cell =>
    "    " ++ cell.name ++ " = " ++ cell.value.text ++ "\n")

/-- The first line, which names the instruction if there is one. -/
def heading (program : Program) (position : Nat) : String :=
  match program.at? position with
  | some instruction =>
      "BREAK at instruction " ++ toString position ++ " (order " ++
        toString instruction.order ++ "): " ++ instruction.text ++ "\n"
  | none => "state at instruction " ++ toString position ++ "\n"

/-- The global frame. -/
def globalFrame (store : FrameStore) : String :=
  "  GF: " ++ toString store.global.size ++ " variable(s)\n" ++ bindingLines store.global

/-- The topmost local frame. -/
def localFrame (store : FrameStore) : String :=
  match store.frame? .localTop with
  | some frame =>
      "  LF: " ++ toString frame.size ++ " variable(s), " ++ toString store.depth ++
        " frame(s) deep\n" ++ bindingLines frame
  | none => "  LF: none\n"

/-- The temporary frame. -/
def temporaryFrame (store : FrameStore) : String :=
  match store.temporary with
  | some frame => "  TF: " ++ toString frame.size ++ " variable(s)\n" ++ bindingLines frame
  | none => "  TF: none\n"

/-- The two stacks. -/
def stackLines (state : State) : String :=
  "  operand stack: " ++ toString state.operands.length ++ " [" ++
    ", ".intercalate (state.operands.reverse.map Value.text) ++ "]\n" ++
    "  call stack: " ++ toString state.calls.length ++ "\n"

end Dump

/-- The state in words, as seen from a position of the program after a number of
executed instructions. -/
def State.dump (state : State) (program : Program) (position executed : Nat) : String :=
  Dump.heading program position ++
    "  executed instructions: " ++ toString executed ++ "\n" ++
    Dump.globalFrame state.frames ++ Dump.localFrame state.frames ++
    Dump.temporaryFrame state.frames ++ Dump.stackLines state

end FrameMachine
