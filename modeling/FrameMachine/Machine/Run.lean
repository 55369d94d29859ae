import FrameMachine.Machine.Step

namespace FrameMachine
namespace Machine

/-!
# Runs

A run takes steps until the machine stops and then flushes the streams.  A flush
that fails is a fault of the last executed instruction.  If the run itself ended
with a fault, that fault remains its result, and only the machine shows the later
one.
-/

/-- At most the given number of steps, fewer if the machine stops. -/
def steps : (limit : Nat) → Machine → Machine
  | 0, machine => machine
  | limit + 1, machine =>
      if machine.status.isRunning then steps limit machine.step else machine

/-- The number of steps after which a run is given up, more than a host can
take. -/
def stepLimit : Nat := Nat.pow 2 62

/-- The failure of flushing the output stream and then the diagnostic stream. -/
def flushFailure? (state : State) : Option StreamFailure :=
  state.output.flushFailure.or state.diagnostics.flushFailure

/-- The machine after its streams are flushed.  Nothing is reported when no
instruction was executed. -/
def flush (machine : Machine) : Machine :=
  match flushFailure? machine.state, machine.last with
  | some failure, some location =>
      { machine with status := .faulted ⟨location, .stream failure⟩ }
  | _, _ => machine

/-- The result of a run and the machine after it. -/
def run (machine : Machine) : Status × Machine :=
  let stopped := steps stepLimit machine
  match stopped.status with
  | .running position => (.running position, stopped)
  | .faulted fault => (.faulted fault, stopped.flush)
  | .halted _ => (stopped.flush.status, stopped.flush)

/-- The report of the statistics, if they were kept. -/
def report? (machine : Machine) : Option String :=
  machine.profile.map Profile.report

end Machine
end FrameMachine
