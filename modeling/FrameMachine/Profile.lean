import FrameMachine.Opcode

namespace FrameMachine

/-!
# Execution statistics

A profile counts executed instructions by opcode and remembers how deep the two
stacks became.  Its report lists the opcodes by falling count and, where counts
are equal, by name.
-/

/-- The statistics of a run.  Each opcode has at most one count. -/
structure Profile where
  total : Nat
  counts : List (Opcode × Nat)
  operandDepth : Nat
  localDepth : Nat
deriving DecidableEq

namespace Profile

/-- The statistics before a run. -/
def empty : Profile := ⟨0, [], 0, 0⟩

/-- Count an opcode once more. -/
def increment (opcode : Opcode) : List (Opcode × Nat) → List (Opcode × Nat)
  | [] => [(opcode, 1)]
  | entry :: rest =>
      if entry.1 = opcode then (opcode, entry.2 + 1) :: rest
      else entry :: increment opcode rest

/-- Record an executed instruction. -/
def record (profile : Profile) (opcode : Opcode) : Profile :=
  { profile with
    total := profile.total + 1
    counts := increment opcode profile.counts }

/-- Take note of the depths of the operand stack and of the local frames. -/
def noteDepths (profile : Profile) (operands locals : Nat) : Profile :=
  { profile with
    operandDepth := max profile.operandDepth operands
    localDepth := max profile.localDepth locals }

/-- How often an opcode was executed. -/
def count (profile : Profile) (opcode : Opcode) : Nat :=
  (profile.counts.lookup opcode).getD 0

/-- How many instructions worked on the operand stack alone. -/
def stackForms (profile : Profile) : Nat :=
  (profile.counts.filter fun entry => entry.1.isStackForm).foldr (fun entry sum => entry.2 + sum) 0

/-- Whether one entry is listed before another. -/
def precedes (left right : Opcode × Nat) : Bool :=
  decide (right.2 < left.2) ||
    (left.2 == right.2 && decide (left.1.mnemonic ≤ right.1.mnemonic))

/-- The counts in the order of the report. -/
def ranking (profile : Profile) : List (Opcode × Nat) :=
  profile.counts.mergeSort precedes

/-- A text filled with spaces on its right. -/
def padRight (width : Nat) (text : String) : String :=
  text ++ String.ofList (List.replicate (width - text.length) ' ')

/-- A text filled with spaces on its left. -/
def padLeft (width : Nat) (text : String) : String :=
  String.ofList (List.replicate (width - text.length) ' ') ++ text

/-- The text of a share with two places. -/
def percentText : Binary64 → String
  | .finite share => share.fixedText 2
  | other => other.shortestText

/-- The share of a count in the total, in percent.  The share is computed in binary64
arithmetic and rounded once more for its text. -/
def percentage (count total : Nat) : String :=
  percentText (((Binary64.ofInt count).div (Binary64.ofInt total)).mul (Binary64.ofInt 100))

/-- The line of one opcode. -/
def line (total : Nat) (entry : Opcode × Nat) : String :=
  "  " ++ padRight 12 entry.1.mnemonic ++ " " ++ padLeft 10 (toString entry.2) ++ " (" ++
    padLeft 6 (percentage entry.2 total) ++ "%)\n"

/-- The report of a run. -/
def report (profile : Profile) : String :=
  "Total instructions executed: " ++ toString profile.total ++ "\n" ++
    "Stack-form instructions: " ++ toString profile.stackForms ++ "\n" ++
    "Max operand stack depth: " ++ toString profile.operandDepth ++ "\n" ++
    "Max local frame depth: " ++ toString profile.localDepth ++ "\n" ++
    (if profile.counts.isEmpty then "No instructions recorded\n"
      else "\nInstruction counts by opcode:\n" ++
        String.join (profile.ranking.map (line profile.total)))

end Profile
end FrameMachine
