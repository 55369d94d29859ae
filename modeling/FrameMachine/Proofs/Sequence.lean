import FrameMachine.Proofs.Step

namespace FrameMachine

/-!
# Instructions one behind the other

Steps of a machine amount to an action.  `Machine.Does` says this for a number of steps:
the action is done to the state of the machine, its control is passed, and its error is
the error of the fault.  A single step does what the instruction at its position does,
and a step whose instruction passes control to the next one is followed by what the
machine does there.
-/

namespace Machine

/-- The machine is running at a position where the given instructions stand one behind
the other. -/
structure StandsAt (machine : Machine) (position : Nat) (sequence : List Instruction) :
    Prop where
  status : machine.status = .running position
  placed : sequence <+: machine.program.instructions.drop position

/-- A number of steps of the machine do what an action does, with control passed from
the position `last`. -/
def Does (machine : Machine) (count last : Nat) (action : Action Transfer) : Prop :=
  Action.Ensures
    (action >>= fun control => Action.require (transfer machine.program last control))
    machine.state
    (fun status after =>
      (step^[count] machine).state = after ∧ (step^[count] machine).status = status)
    (fun error after =>
      (step^[count] machine).state = after ∧
        ∃ location, (step^[count] machine).status = .faulted ⟨location, error⟩)

variable {machine : Machine} {position : Nat} {instruction : Instruction}

theorem StandsAt.fetched {rest : List Instruction}
    (stands : machine.StandsAt position (instruction :: rest)) :
    machine.program.at? position = some instruction := by
  obtain ⟨behind, placed⟩ := stands.placed
  rw [Program.at?, ← Nat.add_zero position, ← List.getElem?_drop, ← placed]
  rfl

theorem StandsAt.tail {rest : List Instruction} {next : Machine}
    (stands : machine.StandsAt position (instruction :: rest))
    (program : next.program = machine.program) (status : next.status = .running (position + 1)) :
    next.StandsAt (position + 1) rest := by
  obtain ⟨behind, placed⟩ := stands.placed
  refine ⟨status, behind, ?_⟩
  rw [program, ← List.tail_drop, ← placed]
  rfl

/-- One step executes one instruction. -/
theorem StandsAt.does_execute {rest : List Instruction}
    (stands : machine.StandsAt position (instruction :: rest)) :
    machine.Does 1 position
      (Action.execute (machine.siteAt position) instruction instruction.opcode.role) := by
  have stepped := step_of_running stands.status stands.fetched
  have executed := (executeAt_iff_ensures (motive := (· = machine.step))).mp stepped.symm
  refine executed.imp (fun status after equal => ?_) (fun error after equal => ?_)
  · rw [Function.iterate_one, ← equal]
    exact ⟨rfl, rfl⟩
  · rw [Function.iterate_one, ← equal]
    exact ⟨rfl, instruction.locationAt position, rfl⟩

/-- A machine goes on to the instruction behind one that passes control to it. -/
theorem StandsAt.does_cons {rest : List Instruction} {action : Action Unit}
    {remaining : Action Transfer} {count last : Nat}
    (stands : machine.StandsAt position (instruction :: rest)) (more : rest ≠ [])
    (passes : Action.execute (machine.siteAt position) instruction instruction.opcode.role =
      action >>= fun _ => pure .next)
    (continues : ∀ next : Machine, next.program = machine.program →
      next.StandsAt (position + 1) rest → next.Does count last remaining) :
    machine.Does (count + 1) last (action >>= fun _ => remaining) := by
  have within : position + 1 < machine.program.size := by
    have length := stands.placed.length_le
    have positive := List.length_pos_iff.mpr more
    rw [List.length_drop, List.length_cons] at length
    rw [Program.size]
    omega
  have first := stands.does_execute
  rw [Does, passes, bind_assoc] at first
  rw [Does, bind_assoc]
  rw [Action.ensures_bind] at first ⊢
  refine first.imp (fun _ after reached => ?_) (fun error after failed => ?_)
  · obtain ⟨state, status⟩ := (Action.ensures_pure _).mp reached
    rw [Function.iterate_one] at state status
    have program := (step_program machine).1
    have next := continues machine.step program
      (stands.tail program (status.trans (if_pos within)))
    rw [Does, program, state] at next
    exact next
  · obtain ⟨state, location, status⟩ := failed
    have stopped : machine.step.status.isRunning = false := by
      rw [← Function.iterate_one step, status]
      rfl
    rw [Function.iterate_succ_apply, iterate_of_not_running stopped]
    exact ⟨state, location, status⟩

end Machine
end FrameMachine
