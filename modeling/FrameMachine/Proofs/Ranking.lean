import FrameMachine.Proofs.Coupling
import FrameMachine.Proofs.Nesting
import FrameMachine.Proofs.Validity

namespace FrameMachine

/-!
# Order numbers only rank

The order numbers of a listing say in which order its instructions are executed, and nothing
else.  It does not matter where an entry stands in the listing: a permuted listing has the
same program or an error of the same kind.  The error is the very same one if the order
numbers are valid, because then assembly looks at the entries in sorted order only.

Nor does it matter by how much order numbers differ.  If they are replaced without changing
which is smaller, the program has the same instructions under other numbers, and every run
of it is step by step a run of the first program.  An order number comes to light in the
location of a fault and in the dump that a breakpoint prints, and nowhere else.
-/

namespace Listing

variable {listing permuted : Listing}

/-! ## Permuted listings -/

section Permuted

variable (same : permuted.entries.Perm listing.entries)

include same

theorem ordersValid_iff_of_perm : permuted.OrdersValid ↔ listing.OrdersValid := by
  constructor
  · rintro ⟨range, distinct⟩
    exact ⟨fun entry member => range entry (same.mem_iff.mpr member),
      (same.pairwise_iff Ne.symm).mp distinct⟩
  · rintro ⟨range, distinct⟩
    exact ⟨fun entry member => range entry (same.mem_iff.mp member),
      (same.pairwise_iff Ne.symm).mpr distinct⟩

/-- With valid order numbers, a permuted listing is sorted in the same way. -/
theorem OrdersValid.assemble_eq_of_perm (orders : listing.OrdersValid) :
    permuted.assemble = listing.assemble := by
  have alsoOrders : permuted.OrdersValid := (ordersValid_iff_of_perm same).mpr orders
  have sameSorted : sorted listing.entries = sorted permuted.entries :=
    orders.sorted_eq ((sorted_perm permuted.entries).trans same) alsoOrders.pairwise_sorted
  rw [orders.assemble_eq, alsoOrders.assemble_eq, sameSorted]

/-- A permuted listing has the same program, or an error of the same kind. -/
theorem assemble_kind_of_perm :
    permuted.assemble.mapError Error.kind = listing.assemble.mapError Error.kind := by
  by_cases orders : listing.OrdersValid
  · rw [orders.assemble_eq_of_perm same]
  · have alsoInvalid : ¬permuted.OrdersValid := mt (ordersValid_iff_of_perm same).mp orders
    rcases assemble_error_of_flaw (fun valid => orders valid.1) with ⟨error, failed, kind⟩
    rcases assemble_error_of_flaw (fun valid => alsoInvalid valid.1) with
      ⟨error', alsoFailed, alsoKind⟩
    rw [failed, alsoFailed, Except.mapError, Except.mapError, kind, alsoKind]

end Permuted

/-! ## Renumbered listings -/

/-- The order number of an entry, which is not negative in a valid listing. -/
def Entry.number (entry : Entry) : Nat :=
  entry.order.toInt.toNat

/-- The entry with another order number. -/
def Entry.renumber (rename : Nat → Nat) (entry : Entry) : Entry :=
  { entry with order := Int64.ofNat (rename entry.number) }

/-- The listing with other order numbers. -/
def renumber (rename : Nat → Nat) (listing : Listing) : Listing :=
  ⟨listing.entries.map (Entry.renumber rename)⟩

/-- Renaming is strictly increasing on the order numbers of the listing, and yields order
numbers in range. -/
structure Increasing (rename : Nat → Nat) (listing : Listing) : Prop where
  increasing : ∀ first ∈ listing.entries, ∀ second ∈ listing.entries,
    first.number < second.number → rename first.number < rename second.number
  range : ∀ entry ∈ listing.entries,
    1 ≤ rename entry.number ∧ (rename entry.number : Int) ≤ maxOrder

variable {rename : Nat → Nat}

theorem Increasing.toInt_order (increasing : listing.Increasing rename) {entry : Entry}
    (member : entry ∈ listing.entries) :
    (entry.renumber rename).order.toInt = rename entry.number := by
  have bound := (increasing.range entry member).2
  unfold maxOrder at bound
  exact Int64.toInt_ofNat_of_lt (by omega)

theorem Increasing.inRange (increasing : listing.Increasing rename) {entry : Entry}
    (member : entry ∈ listing.entries) : (entry.renumber rename).InRange := by
  rcases increasing.range entry member with ⟨positive, bound⟩
  unfold Entry.InRange
  rw [increasing.toInt_order member]
  exact ⟨by omega, bound⟩

/-- Renumbered entries compare as the entries did. -/
theorem Increasing.order_le_iff (increasing : listing.Increasing rename)
    (orders : listing.OrdersValid) {first second : Entry} (member : first ∈ listing.entries)
    (alsoMember : second ∈ listing.entries) :
    (first.renumber rename).order.toInt ≤ (second.renumber rename).order.toInt ↔
      first.order.toInt ≤ second.order.toInt := by
  have number : (first.number : Int) = first.order.toInt :=
    (orders.range first member).toNat_order
  have alsoNumber : (second.number : Int) = second.order.toInt :=
    (orders.range second alsoMember).toNat_order
  rw [increasing.toInt_order member, increasing.toInt_order alsoMember, ← number, ← alsoNumber,
    Int.ofNat_le, Int.ofNat_le]
  constructor
  · intro before
    by_contra behind
    have := increasing.increasing second alsoMember first member (Nat.lt_of_not_le behind)
    omega
  · intro before
    rcases Nat.lt_or_eq_of_le before with smaller | equal
    · exact Nat.le_of_lt (increasing.increasing first member second alsoMember smaller)
    · rw [equal]

theorem Increasing.sorted_renumber (increasing : listing.Increasing rename)
    (orders : listing.OrdersValid) :
    sorted (listing.renumber rename).entries =
      (sorted listing.entries).map (Entry.renumber rename) := by
  refine (List.map_mergeSort fun first member second alsoMember => ?_).symm
  exact decide_eq_decide.mpr (increasing.order_le_iff orders member alsoMember).symm

theorem Increasing.ordersValid (increasing : listing.Increasing rename)
    (orders : listing.OrdersValid) : (listing.renumber rename).OrdersValid where
  range := by
    intro entry member
    rcases List.mem_map.mp member with ⟨original, originalMember, rfl⟩
    exact increasing.inRange originalMember
  distinct := by
    refine List.pairwise_map.mpr (orders.distinct.imp_of_mem ?_)
    intro first second member alsoMember different same
    have equal : first.order.toInt = second.order.toInt := by
      have ordered := increasing.order_le_iff orders member alsoMember
      have alsoOrdered := increasing.order_le_iff orders alsoMember member
      rw [same] at ordered alsoOrdered
      omega
    exact different (Int64.toInt_inj.mp equal)

/-- The instruction of a renumbered entry is the renumbered instruction. -/
theorem Entry.Denotes.renumber {entry : Entry} {instruction : Instruction}
    (denotes : entry.Denotes instruction)
    (number : (entry.renumber rename).order.toInt = rename entry.number) :
    (entry.renumber rename).Denotes (instruction.renumber rename) where
  order := by
    have same : entry.number = instruction.order := by
      rw [Entry.number, ← denotes.order, Int.toNat_natCast]
    rw [number, same]
    rfl
  spells := ⟨denotes.spells.named, denotes.spells.denoted, denotes.spells.fits⟩

end Listing

/-- The labels of a program do not depend on order numbers. -/
theorem LabelTable.collect_renumber (rename : Nat → Nat) (table : LabelTable) (position : Nat)
    (instructions : List Instruction) :
    collect table position (instructions.map (Instruction.renumber rename)) =
      collect table position instructions := by
  induction instructions generalizing table position with
  | nil => rfl
  | cons instruction rest inductionHypothesis =>
      rw [List.map_cons, collect, collect]
      simp only [inductionHypothesis]
      rfl

theorem Program.ofInstructions_renumber {instructions : List Instruction} {program : Program}
    (built : ofInstructions instructions = .ok program) (rename : Nat → Nat) :
    ofInstructions (instructions.map (Instruction.renumber rename)) =
      .ok (program.renumber rename) := by
  unfold ofInstructions at built ⊢
  rw [LabelTable.collect_renumber]
  cases collected : LabelTable.empty.collect 0 instructions with
  | error error => simp [collected] at built
  | ok labels =>
      simp only [collected, Except.ok.injEq] at built
      rw [← built]
      rfl

/-- A renumbered listing has the renumbered program. -/
theorem Listing.Increasing.assemble_renumber {rename : Nat → Nat} {listing : Listing}
    (increasing : listing.Increasing rename) {program : Program}
    (assembled : listing.assemble = .ok program) :
    (listing.renumber rename).assemble = .ok (program.renumber rename) := by
  rcases instructions_of_assemble assembled with ⟨orders, read⟩
  have alsoOrders := increasing.ordersValid orders
  have built : Program.ofInstructions program.instructions = .ok program := by
    rw [orders.assemble_eq, read] at assembled
    exact assembled
  have denoted := (instructions_eq_ok_iff_denotes orders.range_sorted).mp read
  have members : ∀ entry ∈ sorted listing.entries, entry ∈ listing.entries :=
    fun entry => (sorted_perm listing.entries).mem_iff.mp
  have alsoRead : instructions (sorted (listing.renumber rename).entries) =
      .ok (program.instructions.map (Instruction.renumber rename)) := by
    rw [instructions_eq_ok_iff_denotes alsoOrders.range_sorted,
      increasing.sorted_renumber orders, List.forall₂_map_left_iff, List.forall₂_map_right_iff]
    refine ((List.forall₂_and_left ..).mpr ⟨members, denoted⟩).imp fun entry instruction both => ?_
    exact both.2.renumber (increasing.toInt_order both.1)
  rw [alsoOrders.assemble_eq, alsoRead]
  exact Program.ofInstructions_renumber built rename

namespace Machine

/-! ## Runs of renumbered programs -/

/-- The next step prints a dump. -/
def PrintsDump (machine : Machine) : Prop :=
  machine.debugOutput = true ∧ ∃ position, machine.Executes position .breakpoint

variable {alike : OutputStream → OutputStream → Prop} {rename : Nat → Nat}
  {first second : Machine}

/-- Two machines with the same option agree about everything but the diagnostics, if these
stay alike when something is printed. -/
theorem agreesElsewhere (option : second.debugOutput = first.debugOutput)
    (prints : ∀ text, Coupling.WritesAlike alike text text)
    (dumps : first.PrintsDump → ∀ text text', Coupling.WritesAlike alike text text') :
    AgreesElsewhere (.exceptDiagnostics alike) first second := by
  intro position instruction running fetched elsewhere
  refine Coupling.agrees_execute_elsewhere option instruction elsewhere prints ?_
  intro breaks wanted
  have isBreakpoint : instruction.opcode = .breakpoint := Opcode.role_injective breaks
  exact dumps ⟨wanted, position, running, instruction, fetched, isBreakpoint⟩

theorem Follows.state_eq (follows : Follows (.exceptDiagnostics alike) rename first second) :
    second.state = { first.state with diagnostics := second.state.diagnostics } := by
  rcases follows.state with ⟨diagnostics, same, -⟩
  rw [same]

variable (program : Program) (input : InputStream) (output diagnostics : OutputStream)
  (debugOutput : Bool) (profile : Option Profile)

theorem follows_start (rename : Nat → Nat) (reflexive : alike diagnostics diagnostics) :
    Follows (.exceptDiagnostics alike) rename
      (start program input output diagnostics debugOutput profile)
      (start (program.renumber rename) input output diagnostics debugOutput profile) where
  program := rfl
  state := ⟨diagnostics, rfl, reflexive⟩
  status := by
    change continueAt (program.renumber rename) 0 = (continueAt program 0).renumber rename
    rw [continueAt_renumber]
    unfold continueAt
    split <;> rfl
  executed := rfl

/-- The runs of a program and of the renumbered one, up to diagnostics that stay alike. -/
theorem follows_iterate (rename : Nat → Nat) {count : Nat}
    (reflexive : alike diagnostics diagnostics)
    (prints : ∀ text, Coupling.WritesAlike alike text text)
    (dumps : ∀ index < count,
      (step^[index] (start program input output diagnostics debugOutput profile)).PrintsDump →
      ∀ text text', Coupling.WritesAlike alike text text') :
    Follows (.exceptDiagnostics alike) rename
      (step^[count] (start program input output diagnostics debugOutput profile))
      (step^[count]
        (start (program.renumber rename) input output diagnostics debugOutput profile)) := by
  have together := follows_start program input output diagnostics debugOutput profile rename
    reflexive
  have option (index : Nat) :
      (step^[index] (start (program.renumber rename) input output diagnostics debugOutput
        profile)).debugOutput =
      (step^[index] (start program input output diagnostics debugOutput profile)).debugOutput := by
    rw [(iterate_program index _).2, (iterate_program index _).2]
    rfl
  exact together.iterate_together (fun _ => id) fun index within =>
    agreesElsewhere (option index) prints (dumps index within)

end Machine

/-- Only the ranking of order numbers matters.  A permuted listing has the same program or an
error of the same kind, and the very same error if the order numbers are valid.  A listing
whose order numbers are renamed by a strictly increasing function has the renumbered program.
A run of that program has the same frames, stacks, input and output after any number of steps,
has executed as many instructions, and has the same status up to the order number in a fault.
As long as no dump is printed its diagnostics are the same too.  A dump shows an order number,
and of two dumps a stream may have room for one only: so either no dump is printed, or the
diagnostics are a stream that cannot fail. -/
theorem Listing.only_ranking_matters (listing : Listing) :
    (∀ permuted : Listing, permuted.entries.Perm listing.entries →
      permuted.assemble.mapError Error.kind = listing.assemble.mapError Error.kind ∧
      (listing.OrdersValid → permuted.assemble = listing.assemble)) ∧
    ∀ program rename, listing.assemble = .ok program → listing.Increasing rename →
      (listing.renumber rename).assemble = .ok (program.renumber rename) ∧
      ∀ input output diagnostics debugOutput profile count,
        let original := Machine.start program input output diagnostics debugOutput profile
        let renumbered :=
          Machine.start (program.renumber rename) input output diagnostics debugOutput profile
        let first := Machine.step^[count] original
        let second := Machine.step^[count] renumbered
        let silent := ∀ index < count, ¬(Machine.step^[index] original).PrintsDump
        (diagnostics.canFail = false ∨ silent →
          second.state = { first.state with diagnostics := second.state.diagnostics } ∧
          second.status = first.status.renumber rename ∧ second.executed = first.executed) ∧
        (silent → second.state.diagnostics = first.state.diagnostics) := by
  constructor
  · intro permuted same
    exact ⟨assemble_kind_of_perm same, fun orders => orders.assemble_eq_of_perm same⟩
  · intro program rename assembled increasing
    refine ⟨increasing.assemble_renumber assembled, ?_⟩
    intro input output diagnostics debugOutput profile count original renumbered first second silent
    have unfailingRuns (unfailing : diagnostics.canFail = false) :
        Machine.Follows (.exceptDiagnostics Coupling.Unfailing) rename first second :=
      Machine.follows_iterate program input output diagnostics debugOutput profile rename
        ⟨unfailing, unfailing⟩ (fun text => Coupling.writesAlike_unfailing text text)
        fun _ _ _ => Coupling.writesAlike_unfailing
    have silentRuns (quiet : silent) : Machine.Follows (.exceptDiagnostics Eq) rename first second :=
      Machine.follows_iterate program input output diagnostics debugOutput profile rename rfl
        Coupling.writesAlike_eq fun index within printed => absurd printed (quiet index within)
    constructor
    · rintro (unfailing | quiet)
      · have follows := unfailingRuns unfailing
        exact ⟨follows.state_eq, follows.status, follows.executed⟩
      · have follows := silentRuns quiet
        exact ⟨follows.state_eq, follows.status, follows.executed⟩
    · intro quiet
      rcases (silentRuns quiet).state with ⟨_, same, alike⟩
      rw [same]
      exact alike.symm

/-- A listing out of order, the same with its entries reversed, and the same with its order
numbers multiplied by ten.  The dump between the printed value and the fault shows an order
number, so the diagnostics are the same only before it. -/
theorem Listing.only_ranking_matters_tenfold :
    let listing : Listing :=
      ⟨[⟨3, "ADDS", []⟩, ⟨1, "DPRINT", [⟨"int", "7"⟩]⟩, ⟨2, "BREAK", []⟩]⟩
    let program : Program :=
      ⟨[⟨1, .dprint, [.literal (.int 7)]⟩, ⟨2, .breakpoint, []⟩, ⟨3, .adds, []⟩], .empty⟩
    let original := Machine.start program (.ofBytes []) .unlimited .unlimited true none
    let renumbered :=
      Machine.start (program.renumber (10 * ·)) (.ofBytes []) .unlimited .unlimited true none
    Listing.assemble ⟨listing.entries.reverse⟩ = .ok program ∧
      (listing.renumber (10 * ·)).assemble = .ok (program.renumber (10 * ·)) ∧
      (Machine.step^[1] renumbered).state.diagnostics.text = "7" ∧
      (Machine.step^[3] original).status =
        .faulted ⟨⟨2, 3, .adds⟩, .emptyOperandStack⟩ ∧
      (Machine.step^[3] renumbered).status =
        .faulted ⟨⟨2, 30, .adds⟩, .emptyOperandStack⟩ ∧
      (Machine.step^[3] renumbered).state.diagnostics ≠
        (Machine.step^[3] original).state.diagnostics := by
  intro listing program original renumbered
  have orders : listing.OrdersValid := checkOrders_eq_ok_iff_valid.mp rfl
  have arranged : sorted listing.entries =
      [⟨1, "DPRINT", [⟨"int", "7"⟩]⟩, ⟨2, "BREAK", []⟩, ⟨3, "ADDS", []⟩] :=
    orders.sorted_eq (by decide +kernel) (by decide +kernel)
  have assembled : listing.assemble = .ok program := by
    rw [orders.assemble_eq, arranged]
    rfl
  have increasing : listing.Increasing (10 * ·) :=
    ⟨by decide +kernel, by decide +kernel⟩
  have printed : (Machine.step^[1] original).state.diagnostics.text = "7" := by
    decide +kernel
  have faulted : (Machine.step^[3] original).status =
      .faulted ⟨⟨2, 3, .adds⟩, .emptyOperandStack⟩ := by
    decide +kernel
  have differ : (Machine.step^[3] renumbered).state.diagnostics ≠
      (Machine.step^[3] original).state.diagnostics := by
    decide +kernel
  have silent : ∀ index < 1, ¬(Machine.step^[index] original).PrintsDump := by
    rintro index within ⟨-, position, running, instruction, fetched, isBreakpoint⟩
    obtain rfl : index = 0 := Nat.lt_one_iff.mp within
    cases running
    cases fetched
    cases isBreakpoint
  rcases only_ranking_matters listing with ⟨permutes, renumbers⟩
  rcases permutes ⟨listing.entries.reverse⟩ listing.entries.reverse_perm with ⟨-, reversed⟩
  rcases renumbers program (10 * ·) assembled increasing with ⟨alsoAssembled, runs⟩
  have before := (runs (.ofBytes []) .unlimited .unlimited true none 1).2 silent
  have behind := (runs (.ofBytes []) .unlimited .unlimited true none 3).1 (Or.inl rfl)
  refine ⟨(reversed orders).trans assembled, alsoAssembled, ?_, faulted, ?_, differ⟩
  · exact (congrArg OutputStream.text before).trans printed
  · exact behind.2.1.trans (congrArg (Status.renumber (10 * ·)) faulted)

end FrameMachine
