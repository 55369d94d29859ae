import FrameMachine.Proofs.FrameLaws
import FrameMachine.Proofs.Nesting
import FrameMachine.Proofs.Statistics
import Mathlib.Algebra.BigOperators.Group.List.Basic
import Mathlib.Algebra.GroupWithZero.Nat
import Mathlib.Data.List.Sort

namespace FrameMachine

/-!
# Texts that do not depend on enumeration

A frame is a map from names to variables and the statistics are a map from opcodes to numbers.
Neither map has an order of its own, and the order in which their entries happen to be enumerated
must not show.  A dump and a report sort what they list.  That settles the text only if no two
entries can change places: mnemonics of opcodes are distinct, and so are the names by which
variables are sorted, since along every run a variable carries the name under which it stands.

The listings are described here without sorting.  A list is the listing of a frame if it is
strictly ascending and holds what look-up finds, and the listing of a run if it is strictly ranked
and holds how often each opcode was executed.  Either description is met by one list only, and both
say nothing about enumeration.
-/

/-! ## Frames -/

namespace Frame

variable {frame other : Frame} {listing : List Cell}

/-- The same bindings, enumerated in another order. -/
def Rearranges (frame other : Frame) : Prop :=
  frame.bindings.Perm other.bindings

/-- The list is strictly ascending by name and holds what is found in the frame. -/
structure Lists (frame : Frame) (listing : List Cell) : Prop where
  ascending : listing.Pairwise fun first second => first.name < second.name
  exact : ∀ name value, ⟨name, value⟩ ∈ listing ↔ frame.find? name = some value

theorem Rearranges.isMap (same : frame.Rearranges other) (isMap : frame.IsMap) : other.IsMap where
  distinct := (same.map Prod.fst).nodup_iff.mp isMap.distinct
  named name cell member := isMap.named name cell (same.mem_iff.mpr member)

/-- The names in the variables are what is sorted by.  They are distinct because they are the
names under which the variables stand. -/
theorem IsMap.lists_sorted (isMap : frame.IsMap) : frame.Lists frame.sorted where
  ascending := by
    have arranged : frame.sorted.Pairwise fun first second =>
        decide (first.name ≤ second.name) = true :=
      List.pairwise_mergeSort (fun first second third => by simpa using String.le_trans)
        (fun first second => by simpa using String.le_total _ _) (frame.bindings.map Prod.snd)
    have apart : frame.sorted.Pairwise fun first second => first.name ≠ second.name :=
      List.pairwise_map.mp isMap.nodup_sorted
    exact arranged.imp₂ (fun _ _ ordered different =>
      Std.lt_of_le_of_ne (of_decide_eq_true ordered) different) apart
  exact _ _ := isMap.mem_sorted_iff

/-- There is one listing of a frame. -/
theorem Lists.unique {listing' : List Cell} (lists : frame.Lists listing)
    (lists' : frame.Lists listing') : listing = listing' := by
  have antisymmetric : Std.Antisymm fun first second : Cell => first.name < second.name :=
    ⟨fun _ _ before behind => absurd behind (String.lt_asymm before)⟩
  have irreflexive : Std.Irrefl fun first second : Cell => first.name < second.name :=
    ⟨fun _ => String.lt_irrefl _⟩
  refine lists.ascending.eq_of_mem_iff lists'.ascending ?_
  rintro ⟨name, value⟩
  rw [lists.exact, lists'.exact]

/-- Look-up does not depend on enumeration. -/
theorem Rearranges.find?_eq (same : frame.Rearranges other) (isMap : frame.IsMap)
    (name : String) : other.find? name = frame.find? name := by
  ext value
  rw [isMap.find?_eq_some_iff, isMap.cell?_eq_some_iff, (same.isMap isMap).find?_eq_some_iff,
    (same.isMap isMap).cell?_eq_some_iff, same.mem_iff]

theorem Rearranges.sorted_eq (same : frame.Rearranges other) (isMap : frame.IsMap) :
    other.sorted = frame.sorted := by
  have lists := (same.isMap isMap).lists_sorted
  refine Lists.unique ⟨lists.ascending, fun name value => ?_⟩ isMap.lists_sorted
  rw [lists.exact, same.find?_eq isMap]

end Frame

namespace FrameStore

variable {store other : FrameStore}

/-- The same frames in the same places, each of them enumerated in any order. -/
structure Rearranges (store other : FrameStore) : Prop where
  global : store.global.Rearranges other.global
  locals : List.Forall₂ Frame.Rearranges store.locals other.locals
  temporary : Option.Rel Frame.Rearranges store.temporary other.temporary

theorem Rearranges.frame? (same : store.Rearranges other) (scope : Scope) :
    Option.Rel Frame.Rearranges (store.frame? scope) (other.frame? scope) := by
  cases scope with
  | global => exact .some same.global
  | localTop =>
      have stacked := same.locals
      unfold FrameStore.frame?
      generalize store.locals = first at stacked
      generalize other.locals = second at stacked
      cases stacked with
      | nil => exact .none
      | cons top _ => exact .some top
  | temporary => exact same.temporary

/-- The variables of a scope in the order of a dump. -/
def listing? (store : FrameStore) (scope : Scope) : Option (List Cell) :=
  (store.frame? scope).map Frame.sorted

theorem HoldsMaps.lists_listing? (maps : store.HoldsMaps) (scope : Scope) :
    Option.Rel Frame.Lists (store.frame? scope) (store.listing? scope) := by
  unfold listing?
  cases present : store.frame? scope with
  | none => exact .none
  | some frame => exact .some (maps.of_frame? present).lists_sorted

theorem Rearranges.listing?_eq (same : store.Rearranges other) (maps : store.HoldsMaps) :
    other.listing? = store.listing? := by
  funext scope
  have related := same.frame? scope
  have isMap : ∀ frame, store.frame? scope = some frame → frame.IsMap :=
    fun _ => maps.of_frame?
  unfold listing?
  generalize store.frame? scope = first at related isMap
  generalize other.frame? scope = second at related
  cases related with
  | none => rfl
  | some frames => exact congrArg some (frames.sorted_eq (isMap _ rfl))

end FrameStore

namespace Dump

/-- What a dump says about a scope: how many variables there are, and a line for each. -/
def part (title ending : String) : Option (List Cell) → String
  | some listing => title ++ toString listing.length ++ ending ++
      String.join (listing.map fun cell =>
        "    " ++ cell.name ++ " = " ++ cell.value.text ++ "\n")
  | none => title ++ "none\n"

/-- The dump of a state whose variables are listed in a given order. -/
def text (state : State) (program : Program) (position executed : Nat)
    (listing? : Scope → Option (List Cell)) : String :=
  heading program position ++
    "  executed instructions: " ++ toString executed ++ "\n" ++
    part "  GF: " " variable(s)\n" (listing? .global) ++
    part "  LF: " (" variable(s), " ++ toString state.frames.depth ++ " frame(s) deep\n")
      (listing? .localTop) ++
    part "  TF: " " variable(s)\n" (listing? .temporary) ++ stackLines state

theorem length_sorted (frame : Frame) : frame.sorted.length = frame.size :=
  (List.length_mergeSort _).trans (List.length_map _)

theorem dump_eq_text (state : State) (program : Program) (position executed : Nat) :
    state.dump program position executed =
      text state program position executed state.frames.listing? := by
  have locals : localFrame state.frames =
      part "  LF: " (" variable(s), " ++ toString state.frames.depth ++ " frame(s) deep\n")
        (state.frames.listing? .localTop) := by
    unfold localFrame FrameStore.listing?
    cases state.frames.frame? .localTop with
    | none => rfl
    | some frame => simp [part, length_sorted, bindingLines, String.append_assoc]
  have temporary : temporaryFrame state.frames =
      part "  TF: " " variable(s)\n" (state.frames.listing? .temporary) := by
    unfold temporaryFrame FrameStore.listing? FrameStore.frame?
    cases state.frames.temporary with
    | none => rfl
    | some frame => simp [part, length_sorted, bindingLines]
  have global : globalFrame state.frames =
      part "  GF: " " variable(s)\n" (state.frames.listing? .global) := by
    simp [globalFrame, FrameStore.listing?, FrameStore.frame?, part, length_sorted, bindingLines]
  rw [State.dump, text, locals, temporary, global]

/-- The enumeration of frames that are maps does not show in a dump. -/
theorem dump_eq_of_rearranges {state : State} {frames : FrameStore}
    (same : state.frames.Rearranges frames) (maps : state.frames.HoldsMaps)
    (program : Program) (position executed : Nat) :
    State.dump { state with frames := frames } program position executed =
      state.dump program position executed := by
  have depth : frames.depth = state.frames.depth := same.locals.length_eq.symm
  rw [dump_eq_text, dump_eq_text, same.listing?_eq maps]
  unfold text
  rewrite [depth]
  rfl

end Dump

/-! ## Statistics -/

namespace Profile

variable {profile other : Profile} {run : List Execution}

/-- The same counts, enumerated in another order. -/
structure Rearranges (profile other : Profile) : Prop where
  counts : profile.counts.Perm other.counts
  total : other.total = profile.total
  operandDepth : other.operandDepth = profile.operandDepth
  localDepth : other.localDepth = profile.localDepth

/-- A higher count, or the same count and a smaller mnemonic. -/
def Outranks (left right : Opcode × Nat) : Prop :=
  right.2 < left.2 ∨ left.2 = right.2 ∧ left.1.mnemonic < right.1.mnemonic

/-- The list is strictly ranked, and it holds every opcode that was executed once, with the number
of its executions. -/
structure Ranks (run : List Execution) (ranking : List (Opcode × Nat)) : Prop where
  ranked : ranking.Pairwise Outranks
  once : (ranking.map Prod.fst).Nodup
  exact : ∀ opcode count, (opcode, count) ∈ ranking ↔
    count = (run.map Execution.opcode).count opcode ∧ 0 < count
  complete : (ranking.map Prod.snd).sum = run.length

theorem precedes_iff {left right : Opcode × Nat} :
    precedes left right = true ↔
      right.2 < left.2 ∨ left.2 = right.2 ∧ left.1.mnemonic ≤ right.1.mnemonic := by
  simp [precedes]

theorem precedes_trans (first second third : Opcode × Nat) (before : precedes first second = true)
    (behind : precedes second third = true) : precedes first third = true := by
  rw [precedes_iff] at before behind ⊢
  rcases before with higher | ⟨level, smaller⟩
  · left
    omega
  · rcases behind with higher | ⟨alsoLevel, alsoSmaller⟩
    · left
      omega
    · exact Or.inr ⟨level.trans alsoLevel, String.le_trans smaller alsoSmaller⟩

theorem precedes_total (left right : Opcode × Nat) :
    (precedes left right || precedes right left) = true := by
  rw [Bool.or_eq_true, precedes_iff, precedes_iff]
  rcases Nat.lt_trichotomy left.2 right.2 with lower | level | higher
  · exact Or.inr (Or.inl lower)
  · exact (String.le_total left.1.mnemonic right.1.mnemonic).imp
      (fun smaller => Or.inr ⟨level, smaller⟩) (fun smaller => Or.inr ⟨level.symm, smaller⟩)
  · exact Or.inl (Or.inl higher)

/-- Each opcode has one count. -/
def IsDistinct (profile : Profile) : Prop :=
  (profile.counts.map Prod.fst).Nodup

theorem Rearranges.isDistinct (same : profile.Rearranges other) (distinct : profile.IsDistinct) :
    other.IsDistinct :=
  (same.counts.map Prod.fst).nodup_iff.mp distinct

theorem ranking_perm (profile : Profile) : profile.ranking.Perm profile.counts :=
  List.mergeSort_perm _ _

/-- Mnemonics are distinct, so that no two entries are on a par. -/
theorem IsDistinct.ranked (distinct : profile.IsDistinct) : profile.ranking.Pairwise Outranks := by
  have arranged : profile.ranking.Pairwise fun left right => precedes left right = true :=
    List.pairwise_mergeSort precedes_trans precedes_total profile.counts
  have apart : profile.ranking.Pairwise fun left right => left.1 ≠ right.1 :=
    List.pairwise_map.mp ((profile.ranking_perm.map Prod.fst).nodup_iff.mpr distinct)
  refine arranged.imp₂ (fun left right ordered different => ?_) apart
  refine (precedes_iff.mp ordered).imp_right (And.imp_right fun smaller => ?_)
  exact Std.lt_of_le_of_ne smaller (mt Opcode.mnemonic_injective different)

theorem Rearranges.ranking_eq (same : profile.Rearranges other) (distinct : profile.IsDistinct) :
    other.ranking = profile.ranking := by
  refine List.Perm.eq_of_pairwise ?_ (same.isDistinct distinct).ranked distinct.ranked
    (other.ranking_perm.trans (same.counts.symm.trans profile.ranking_perm.symm))
  intro left right _ _ before behind
  rcases before with higher | ⟨level, smaller⟩
  · rcases behind with lower | ⟨level, -⟩ <;> omega
  · rcases behind with lower | ⟨-, greater⟩
    · omega
    · exact absurd greater (String.lt_asymm smaller)

/-! ## Counting -/

theorem mem_map_fst_increment {opcode other : Opcode} {counts : List (Opcode × Nat)} :
    other ∈ (increment opcode counts).map Prod.fst ↔
      other = opcode ∨ other ∈ counts.map Prod.fst := by
  induction counts with
  | nil => simp [increment]
  | cons entry counts inductionHypothesis =>
      rw [increment]
      split
      · rename_i here
        simp [here]
      · rw [List.map_cons, List.mem_cons, inductionHypothesis, List.map_cons, List.mem_cons]
        exact or_left_comm

theorem nodup_increment (opcode : Opcode) {counts : List (Opcode × Nat)}
    (distinct : (counts.map Prod.fst).Nodup) :
    ((increment opcode counts).map Prod.fst).Nodup := by
  induction counts with
  | nil => exact List.nodup_singleton opcode
  | cons entry counts inductionHypothesis =>
      rcases List.nodup_cons.mp distinct with ⟨fresh, later⟩
      rw [increment]
      split
      · rename_i here
        exact here ▸ distinct
      · rename_i different
        refine List.nodup_cons.mpr ⟨?_, inductionHypothesis later⟩
        rw [mem_map_fst_increment]
        exact not_or.mpr ⟨different, fresh⟩

theorem positive_increment {opcode : Opcode} {counts : List (Opcode × Nat)}
    (positive : ∀ entry ∈ counts, 0 < entry.2) :
    ∀ entry ∈ increment opcode counts, 0 < entry.2 := by
  induction counts with
  | nil => simp [increment]
  | cons first counts inductionHypothesis =>
      rcases List.forall_mem_cons.mp positive with ⟨here, later⟩
      rw [increment]
      split
      · exact List.forall_mem_cons.mpr ⟨Nat.succ_pos _, later⟩
      · exact List.forall_mem_cons.mpr ⟨here, inductionHypothesis later⟩

theorem isDistinct_ofRun (run : List Execution) : (ofRun run).IsDistinct := by
  induction run using List.reverseRecOn with
  | nil => exact List.nodup_nil
  | append_singleton run execution inductionHypothesis =>
      rw [ofRun_concat, IsDistinct, counts_note]
      exact nodup_increment execution.opcode inductionHypothesis

theorem positive_ofRun (run : List Execution) : ∀ entry ∈ (ofRun run).counts, 0 < entry.2 := by
  induction run using List.reverseRecOn with
  | nil => simp [ofRun, empty]
  | append_singleton run execution inductionHypothesis =>
      rw [ofRun_concat, counts_note]
      exact positive_increment inductionHypothesis

theorem tally_eq_sum_map (profile : Profile) (selects : Opcode → Bool) :
    profile.tally selects =
      ((profile.counts.filter fun entry => selects entry.1).map Prod.snd).sum := by
  rw [tally, List.sum_eq_foldr, List.foldr_map]

/-- The ranking of a run. -/
theorem ranks_ofRun (run : List Execution) : Ranks run (ofRun run).ranking where
  ranked := (isDistinct_ofRun run).ranked
  once := ((ranking_perm _).map Prod.fst).nodup_iff.mpr (isDistinct_ofRun run)
  exact opcode count := by
    rw [(ranking_perm _).mem_iff, ← Lookup.lookup_eq_some_iff_mem (isDistinct_ofRun run),
      ← count_ofRun, Profile.count]
    constructor
    · intro found
      have positive := positive_ofRun run _
        ((Lookup.lookup_eq_some_iff_mem (isDistinct_ofRun run)).mp found)
      exact ⟨by rw [found, Option.getD_some], positive⟩
    · rintro ⟨rfl, positive⟩
      cases found : (ofRun run).counts.lookup opcode with
      | none => simp [found] at positive
      | some count => rfl
  complete := by
    have all := tally_ofRun run fun _ => true
    rw [tally_eq_sum_map, List.filter_true, List.countP_true, List.length_map] at all
    rw [((ranking_perm _).map Prod.snd).sum_eq, all]

/-- The lines before the ranking. -/
def summary (profile : Profile) : String :=
  "Total instructions executed: " ++ toString profile.total ++ "\n" ++
    "Stack-form instructions: " ++ toString profile.stackForms ++ "\n" ++
    "Max operand stack depth: " ++ toString profile.operandDepth ++ "\n" ++
    "Max local frame depth: " ++ toString profile.localDepth ++ "\n"

/-- So many spaces. -/
def blanks (count : Nat) : String :=
  String.ofList (List.replicate count ' ')

/-- A number of hundredths, with its two places. -/
def hundredths (count : Nat) : String :=
  toString (count / 100) ++ "." ++ toString (count / 10 % 10) ++ toString (count % 10)

/-- A share in percent, rounded to hundredths. -/
def shareText : Binary64 → String
  | .finite share => hundredths (Binary64.roundQuotient (share.units * 100) Binary64.one)
  | other => other.shortestText

/-- What the report says about an opcode: its mnemonic in a column of 12 characters, its count in
one of 10, flush right, and its share in one of 6.  The share is a quotient of binary64 numbers,
taken a hundred times. -/
def entryText (opcode : Opcode) (count total : Nat) : String :=
  let mnemonic := opcode.mnemonic
  let number := toString count
  let quotient := (Binary64.ofInt count).div (Binary64.ofInt total)
  let share := shareText (quotient.mul (Binary64.ofInt 100))
  "  " ++ (mnemonic ++ blanks (12 - mnemonic.length)) ++ " " ++
    (blanks (10 - number.length) ++ number) ++ " (" ++
    (blanks (6 - share.length) ++ share) ++ "%)\n"

/-- The report of a profile whose opcodes are listed in a given order. -/
def text (profile : Profile) (ranking : List (Opcode × Nat)) : String :=
  profile.summary ++
    if ranking.isEmpty then "No instructions recorded\n"
    else "\nInstruction counts by opcode:\n" ++
      String.join (ranking.map fun entry => entryText entry.1 entry.2 profile.total)

/-- The digits of a number of hundredths, filled up to one before the point. -/
theorem padded_toDigits (count : Nat) :
    List.replicate (2 + 1 - (Nat.toDigits 10 count).length) '0' ++ Nat.toDigits 10 count =
      Nat.toDigits 10 (count / 100) ++
        [Nat.digitChar (count / 10 % 10), Nat.digitChar (count % 10)] := by
  rcases Nat.lt_or_ge count 10 with one | several
  · rw [Nat.toDigits_of_lt_base one, Nat.div_eq_of_lt one, Nat.mod_eq_of_lt one,
      Nat.div_eq_of_lt (by omega : count < 100)]
    rfl
  · rw [Nat.toDigits_of_base_le (by decide) several]
    rcases Nat.lt_or_ge (count / 10) 10 with two | many
    · rw [Nat.toDigits_of_lt_base two, Nat.mod_eq_of_lt two,
        Nat.div_eq_of_lt (by omega : count < 100)]
      rfl
    · have front : count / 10 / 10 = count / 100 := Nat.div_div_eq_div_mul count 10 10
      have some : 0 < (Nat.toDigits 10 (count / 100)).length :=
        List.length_pos_iff.mpr Nat.toDigits_ne_nil
      rw [Nat.toDigits_of_base_le (by decide) many, front, List.append_assoc]
      have enough : 2 + 1 - (Nat.toDigits 10 (count / 100) ++ ([Nat.digitChar (count / 10 % 10)] ++
          [Nat.digitChar (count % 10)])).length = 0 := by
        simp only [List.length_append, List.length_singleton]
        omega
      rw [enough]
      rfl

theorem positional_eq_hundredths (count : Nat) :
    (Binary64.Decimal.mk count (-2)).positional = hundredths count := by
  have digit (n : Nat) : toString (n % 10) = String.ofList [Nat.digitChar (n % 10)] :=
    congrArg String.ofList (Nat.toDigits_of_lt_base (Nat.mod_lt n (by decide)))
  have whole : toString (count / 100) = String.ofList (Nat.toDigits 10 (count / 100)) := rfl
  have places : (-2 : Int).natAbs = 2 := rfl
  have front : (Nat.toDigits 10 (count / 100) ++
      [Nat.digitChar (count / 10 % 10), Nat.digitChar (count % 10)]).length - 2 =
        (Nat.toDigits 10 (count / 100)).length := by
    rw [List.length_append]
    exact Nat.add_sub_cancel _ 2
  unfold Binary64.Decimal.positional hundredths
  simp only [places, padded_toDigits, front, List.take_left, List.drop_left]
  rw [if_pos (by decide), whole, digit, digit, ← String.toList_inj]
  simp

theorem percentText_eq_shareText : percentText = shareText := by
  funext share
  cases share with
  | finite share => exact positional_eq_hundredths _
  | infinite | nan => rfl

theorem line_eq_entryText (total : Nat) :
    line total = fun entry => entryText entry.1 entry.2 total := by
  funext entry
  unfold line entryText padRight padLeft blanks percentage
  rw [percentText_eq_shareText]

theorem report_eq_text (profile : Profile) : profile.report = profile.text profile.ranking := by
  have empty : profile.ranking.isEmpty = profile.counts.isEmpty := by
    exact profile.ranking_perm.isEmpty_eq
  unfold report text summary
  rewrite [empty, line_eq_entryText]
  rfl

theorem Rearranges.summary_eq (same : profile.Rearranges other) :
    other.summary = profile.summary := by
  have tallied : other.tally Opcode.isStackForm = profile.tally Opcode.isStackForm := by
    rw [tally_eq_sum_map, tally_eq_sum_map, ((same.counts.filter _).map Prod.snd).sum_eq]
  have stackForms : other.stackForms = profile.stackForms := tallied
  unfold summary
  rewrite [stackForms, same.total, same.operandDepth, same.localDepth]
  rfl

theorem Rearranges.report_eq (same : profile.Rearranges other) (distinct : profile.IsDistinct) :
    other.report = profile.report := by
  simp only [report_eq_text, text, same.summary_eq, same.ranking_eq distinct, same.total]

end Profile

/-! ## Machines -/

/-- Every role keeps all frames maps. -/
theorem Role.FrameEffect.holdsMaps {role : Role} {policy : Policy} {instruction : Instruction}
    {before after : FrameStore} (effect : role.FrameEffect policy instruction before after)
    (maps : before.HoldsMaps) : after.HoldsMaps := by
  cases role with
  | createFrame =>
      have created : after = before.create := effect
      rw [created]
      exact maps.create
  | pushFrame => exact maps.push effect
  | popFrame => exact maps.pop effect
  | define =>
      rcases effect with ⟨v, -, defined⟩
      exact maps.define defined
  | move | pop | binaryInto | unaryInto | read | replaceChar | kindOf =>
      rcases effect with ⟨v, value, -, -, assigned⟩
      exact maps.assign assigned
  | _ =>
      have same : after = before := effect
      rw [same]
      exact maps

namespace Machine

/-- What can become of a machine, with the executions since it began to keep statistics or, if it
keeps none, since it was loaded.  Its streams and its option can be replaced at any time, and
statistics can be asked for at any time. -/
inductive Reached : Machine → List Execution → Prop
  | loaded (program : Program) (input : InputStream) (output diagnostics : OutputStream) :
      Reached (load program (.initial input output diagnostics)) []
  | stepped {machine : Machine} {run : List Execution} (reached : Reached machine run) :
      Reached machine.step (run ++ machine.execution?.toList)
  | profiled {machine : Machine} {run : List Execution} (reached : Reached machine run)
      (unobserved : machine.profile = none) : Reached machine.enableProfile []
  | connected {machine : Machine} {run : List Execution} (reached : Reached machine run)
      (input : InputStream) (output diagnostics : OutputStream) (debugOutput : Bool) :
      Reached { machine with
        state := { machine.state with input := input, output := output, diagnostics := diagnostics }
        debugOutput := debugOutput } run
  | flushed {machine : Machine} {run : List Execution} (reached : Reached machine run) :
      Reached machine.flush run

theorem holdsMaps_step {machine : Machine} (maps : machine.state.frames.HoldsMaps) :
    machine.step.state.frames.HoldsMaps := by
  rcases step_state_or_running machine with same | ⟨position, instruction, running, fetched⟩
  · exact same ▸ maps
  · have execution := (Policy.permissive_governs instruction machine.state).allows_execute
      (machine.siteAt position) rfl machine.state ⟨rfl, rfl, fun _ _ => trivial⟩
    refine step_state (motive := fun after => after.frames.HoldsMaps) running fetched
      (execution.imp ?_ ?_)
    · intro control after ⟨holds, _⟩
      exact holds.frames.holdsMaps maps
    · intro error after ⟨holds, _⟩
      rw [holds.frames]
      exact maps

variable {machine : Machine} {run : List Execution}

theorem Reached.holdsMaps (reached : machine.Reached run) : machine.state.frames.HoldsMaps := by
  induction reached with
  | loaded => exact FrameStore.holdsMaps_initial
  | stepped reached maps => exact holdsMaps_step maps
  | profiled reached unobserved maps => exact maps
  | connected reached input output diagnostics debugOutput maps => exact maps
  | flushed reached maps =>
      rw [flush_state]
      exact maps

theorem flush_profile (machine : Machine) : machine.flush.profile = machine.profile := by
  unfold flush
  split <;> rfl

/-- Statistics are those of the executions since they are kept. -/
theorem Reached.profile_eq (reached : machine.Reached run) {profile : Profile}
    (kept : machine.profile = some profile) : profile = Profile.ofRun run := by
  induction reached generalizing profile with
  | loaded => cases kept
  | @stepped machine run reached inductionHypothesis =>
      rw [(step_notes machine).2, Option.map_eq_some_iff] at kept
      rcases kept with ⟨before, keptBefore, rfl⟩
      rw [inductionHypothesis keptBefore, Profile.ofRun, Profile.ofRun, List.foldl_append]
  | profiled reached unobserved inductionHypothesis =>
      rw [enableProfile, unobserved] at kept
      exact (Option.some.inj kept).symm
  | connected reached input output diagnostics debugOutput inductionHypothesis =>
      exact inductionHypothesis kept
  | flushed reached inductionHypothesis =>
      rw [flush_profile] at kept
      exact inductionHypothesis kept

/-- The enumeration of a reached machine does not show in its report. -/
theorem Reached.report?_eq (reached : machine.Reached run) {profile? : Option Profile}
    (same : Option.Rel Profile.Rearranges machine.profile profile?) :
    profile?.map Profile.report = machine.report? := by
  have distinct : ∀ profile, machine.profile = some profile → profile.IsDistinct := by
    intro profile kept
    rw [reached.profile_eq kept]
    exact Profile.isDistinct_ofRun run
  unfold report?
  generalize machine.profile = first at same distinct
  cases same with
  | none => rfl
  | some profiles => exact congrArg some (profiles.report_eq (distinct _ rfl))

/-- Dumps and reports do not depend on enumeration.  Take any machine that can be reached by
loading a program, making steps, asking for statistics, replacing streams and flushing them, in any
order.  Its variables carry the names under which they stand.  If the entries of its frames and of
its statistics are enumerated in another order, every dump is the same text, and so is the report.

In a dump, each of the three scopes that has a frame lists exactly the variables that are found in
it, with their values, strictly ascending by name.  A report lists exactly the opcodes that were
executed since statistics are kept, each once, by descending count and then by ascending mnemonic,
each in a line with its mnemonic, its count and its share.  The counts are the numbers of
executions, and they add up to the total that is printed. -/
theorem dumps_and_reports_ignore_enumeration (reached : machine.Reached run) :
    (∀ frame ∈ machine.state.frames.frames, ∀ name cell,
      (name, cell) ∈ frame.bindings → cell.name = name) ∧
    (∀ frames profile?, machine.state.frames.Rearranges frames →
      Option.Rel Profile.Rearranges machine.profile profile? →
      let other : Machine :=
        { machine with state := { machine.state with frames := frames }, profile := profile? }
      other.report? = machine.report? ∧
      ∀ position, other.state.dump other.program position other.executed =
        machine.state.dump machine.program position machine.executed) ∧
    (∃ listing? : Scope → Option (List Cell),
      (∀ scope, Option.Rel Frame.Lists (machine.state.frames.frame? scope) (listing? scope)) ∧
      ∀ position, machine.state.dump machine.program position machine.executed =
        Dump.text machine.state machine.program position machine.executed listing?) ∧
    ∀ profile, machine.profile = some profile →
      ∃ ranking, Profile.Ranks run ranking ∧ (ranking.map Prod.snd).sum = profile.total ∧
        profile.report = profile.text ranking := by
  have maps := reached.holdsMaps
  refine ⟨?_, ?_, ⟨machine.state.frames.listing?, maps.lists_listing?, ?_⟩, ?_⟩
  · intro frame member
    exact (maps.of_mem member).named
  · intro frames profile? sameFrames sameProfile other
    exact ⟨reached.report?_eq sameProfile, fun position =>
      Dump.dump_eq_of_rearranges sameFrames maps machine.program position machine.executed⟩
  · intro position
    exact Dump.dump_eq_text machine.state machine.program position machine.executed
  · intro profile kept
    have ranks := Profile.ranks_ofRun run
    rw [reached.profile_eq kept]
    exact ⟨_, ranks, ranks.complete.trans (Profile.total_ofRun run).symm, Profile.report_eq_text _⟩

/-- Two definitions and a new frame.  Enumerated backwards, the global frame and the statistics are
different lists, and the texts are the same. -/
theorem dumps_and_reports_ignore_enumeration_reversed :
    let program : Program :=
      ⟨[⟨1, .defVar, [.var ⟨.global, "b"⟩]⟩, ⟨2, .createFrame, []⟩,
        ⟨3, .defVar, [.var ⟨.global, "a"⟩]⟩], .empty⟩
    let loaded := load program (.initial (.ofBytes []) .unlimited .unlimited)
    let machine := loaded.enableProfile.step.step.step
    let frames : FrameStore :=
      { machine.state.frames with global := ⟨machine.state.frames.global.bindings.reverse⟩ }
    let profile : Profile := ⟨3, [(.defVar, 2), (.createFrame, 1)], 0, 0⟩
    let reversed : Profile := { profile with counts := profile.counts.reverse }
    let other : Machine :=
      { machine with state := { machine.state with frames := frames }, profile := some reversed }
    machine.profile = some profile ∧ frames ≠ machine.state.frames ∧ reversed ≠ profile ∧
      other.report? = machine.report? ∧
      other.state.dump other.program 3 other.executed =
        machine.state.dump machine.program 3 machine.executed := by
  intro program loaded machine frames profile reversed other
  have reached : machine.Reached _ :=
    .stepped (.stepped (.stepped (.profiled (.loaded program _ _ _) rfl)))
  have kept : machine.profile = some profile := by decide +kernel
  have sameFrames : machine.state.frames.Rearranges frames :=
    ⟨(List.reverse_perm _).symm, .nil, .some (List.Perm.refl _)⟩
  have sameProfile : Option.Rel Profile.Rearranges machine.profile (some reversed) := by
    rw [kept]
    exact .some ⟨(List.reverse_perm _).symm, rfl, rfl, rfl⟩
  rcases (dumps_and_reports_ignore_enumeration reached).2.1 frames (some reversed) sameFrames
    sameProfile with ⟨report, dump⟩
  exact ⟨kept, by decide +kernel, by decide, report, dump 3⟩

end Machine
end FrameMachine
