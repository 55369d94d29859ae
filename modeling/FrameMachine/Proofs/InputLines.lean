import FrameMachine.Proofs.DeclaredEffect
import FrameMachine.Proofs.Utf8Order

namespace FrameMachine

/-!
# Lines of input

A read takes a line from the input and makes a value of it.  The two are independent.  Where the
line ends is decided byte by byte, before it is known whether the bytes are a text and what the
text denotes, so a line that cannot be used is lost alone and the next read starts behind it.  The
value depends on the line and on the type that was asked for, and on nothing that came before.

A run can have any number of reads among its other instructions.  What one read has done is
observed from outside, as the bytes that are gone from the input and the value that the
destination has.  The observations of a run, in the order of execution, divide the input into
lines.
-/

/-! ## Dividing bytes into lines -/

namespace InputStream

/-- The line that comes next and what is behind it: everything up to and including the first line
end, or all bytes if there is none. -/
inductive Divides : (bytes line rest : List UInt8) → Prop
  | ended {clean rest : List UInt8} (unbroken : lineEnd ∉ clean) :
      Divides (clean ++ lineEnd :: rest) (clean ++ [lineEnd]) rest
  | last {bytes : List UInt8} (unbroken : lineEnd ∉ bytes) : Divides bytes bytes []

/-- Bytes without a line end are passed over. -/
theorem splitLine_append {clean : List UInt8} (unbroken : lineEnd ∉ clean) (behind : List UInt8) :
    (splitLine (clean ++ behind)).1 = clean ++ (splitLine behind).1 ∧
      (splitLine (clean ++ behind)).2.1 = (splitLine behind).2.1 := by
  induction clean with
  | nil => exact ⟨rfl, rfl⟩
  | cons byte clean inductionHypothesis =>
      have other : byte ≠ lineEnd := (List.ne_of_not_mem_cons unbroken).symm
      rcases inductionHypothesis (List.not_mem_of_not_mem_cons unbroken) with ⟨line, rest⟩
      rw [List.cons_append, splitLine, if_neg other]
      exact ⟨congrArg (byte :: ·) line, rest⟩

namespace Divides

variable {bytes line rest : List UInt8}

theorem append (divides : Divides bytes line rest) : bytes = line ++ rest := by
  cases divides with
  | ended unbroken => rw [List.append_assoc, List.singleton_append]
  | last unbroken => rw [List.append_nil]

/-- Nothing is taken only if there is nothing. -/
theorem eq_nil_iff (divides : Divides bytes line rest) : line = [] ↔ bytes = [] := by
  cases divides <;> simp

/-- There is one way to divide. -/
theorem splitLine_eq (divides : Divides bytes line rest) :
    (splitLine bytes).1 = line ∧ (splitLine bytes).2.1 = rest := by
  cases divides with
  | ended unbroken => exact splitLine_append unbroken _
  | last unbroken =>
      have split := splitLine_append unbroken []
      rw [List.append_nil] at split
      exact ⟨split.1.trans (List.append_nil _), split.2⟩

theorem unique {otherLine otherRest : List UInt8} (divides : Divides bytes line rest)
    (alsoDivides : Divides bytes otherLine otherRest) : line = otherLine ∧ rest = otherRest :=
  ⟨divides.splitLine_eq.1.symm.trans alsoDivides.splitLine_eq.1,
    divides.splitLine_eq.2.symm.trans alsoDivides.splitLine_eq.2⟩

end Divides

theorem exists_divides (bytes : List UInt8) : ∃ line rest, Divides bytes line rest := by
  by_cases broken : lineEnd ∈ bytes
  · rcases List.eq_append_cons_of_mem broken with ⟨clean, rest, rfl, unbroken⟩
    exact ⟨_, _, .ended unbroken⟩
  · exact ⟨_, _, .last broken⟩

/-- A stream that never fails gives the next line. -/
theorem takeLine_ofBytes {bytes line rest : List UInt8} (divides : Divides bytes line rest) :
    (ofBytes bytes).takeLine = (.ok line, ofBytes rest) := by
  rcases divides.splitLine_eq with ⟨rfl, rfl⟩
  rcases split : splitLine bytes with ⟨line, rest, found⟩
  simp only [takeLine, ofBytes, split]

/-- Lines that are taken one after the other, and what is left behind them. -/
inductive Takes : (bytes : List UInt8) → (lines : List (List UInt8)) → (rest : List UInt8) → Prop
  | nil {bytes : List UInt8} : Takes bytes [] bytes
  | cons {bytes line middle rest : List UInt8} {lines : List (List UInt8)}
      (divides : Divides bytes line middle) (takes : Takes middle lines rest) :
      Takes bytes (line :: lines) rest

namespace Takes

variable {bytes line rest behind : List UInt8} {lines : List (List UInt8)}

theorem concat (takes : Takes bytes lines rest) (divides : Divides rest line behind) :
    Takes bytes (lines ++ [line]) behind := by
  induction takes with
  | nil => exact .cons divides .nil
  | cons first _ inductionHypothesis => exact .cons first (inductionHypothesis divides)

/-- Nothing is lost between the lines. -/
theorem flatten (takes : Takes bytes lines rest) : bytes = lines.flatten ++ rest := by
  induction takes with
  | nil => rfl
  | cons divides _ inductionHypothesis =>
      rw [divides.append, inductionHypothesis, List.flatten_cons, List.append_assoc]

/-- Some of the lines are taken first. -/
theorem split {earlier later : List (List UInt8)} (takes : Takes bytes (earlier ++ later) rest) :
    ∃ left, Takes bytes earlier left ∧ Takes left later rest := by
  induction earlier generalizing bytes with
  | nil => exact ⟨bytes, .nil, takes⟩
  | cons line earlier inductionHypothesis =>
      cases takes with
      | cons divides takes =>
          rcases inductionHypothesis takes with ⟨left, first, second⟩
          exact ⟨left, .cons divides first, second⟩

/-- Where there is nothing every line is empty. -/
theorem eq_nil_of_mem (takes : Takes bytes lines rest) (exhausted : bytes = []) :
    ∀ line ∈ lines, line = [] := by
  induction takes with
  | nil => exact fun _ member => absurd member List.not_mem_nil
  | cons divides _ inductionHypothesis =>
      have parts := List.append_eq_nil_iff.mp (divides.append.symm.trans exhausted)
      exact List.forall_mem_cons.mpr ⟨parts.1, inductionHypothesis parts.2⟩

/-- Lines that are known to stand in the input are those that are taken, and behind them every line
is empty. -/
theorem getElem? {written : List (List UInt8)}
    (divides : ∀ line ∈ written, ∀ behind, Divides (line ++ behind) line behind)
    (takes : Takes written.flatten lines rest) {index : Nat} (taken : lines[index]? = some line) :
    line = written[index]?.getD [] := by
  induction written generalizing lines index with
  | nil =>
      rw [takes.eq_nil_of_mem rfl line (List.mem_of_getElem? taken)]
      rfl
  | cons first written inductionHypothesis =>
      rcases List.forall_mem_cons.mp divides with ⟨divides, others⟩
      cases takes with
      | nil => cases taken
      | cons alsoDivides takes =>
          rcases (divides _).unique alsoDivides with ⟨rfl, rfl⟩
          cases index with
          | zero => exact (Option.some.inj taken).symm
          | succ index => exact inductionHypothesis others takes taken

end Takes

end InputStream

/-! ## Lines of text -/

namespace Text

/-- Continuation bytes are beyond the codes of single bytes. -/
theorem le_of_mem_continuation {count code : Nat} {byte : UInt8}
    (member : byte ∈ continuation count code) : 128 ≤ byte.toNat := by
  induction count with
  | zero => cases member
  | succ count inductionHypothesis =>
      rcases List.mem_cons.mp member with rfl | later
      · have small : code / 64 ^ count % 64 + 128 < 256 := by omega
        rw [UInt8.toNat_ofNat_of_lt' small]
        omega
      · exact inductionHypothesis later

/-- The line end is the encoding of one character and part of no other. -/
theorem lineEnd_not_mem_utf8EncodeChar {c : Char} (other : c ≠ '\n') :
    InputStream.lineEnd ∉ String.utf8EncodeChar c := by
  rw [utf8EncodeChar_eq]
  intro member
  rcases List.mem_cons.mp member with leads | continues
  · have code : c.toNat = 10 := by
      have same : 10 = leading c.toNat := by
        rw [← UInt8.toNat_ofNat_of_lt' (leading_lt (toNat_lt c)), ← leads]
        rfl
      revert same
      unfold leading continuationCount
      split_ifs <;> simp only [leadingMark] <;> omega
    exact other (Char.toNat_inj.mp code)
  · exact absurd (le_of_mem_continuation continues) (by decide)

theorem lineEnd_not_mem_bytes {text : String} (unbroken : '\n' ∉ text.toList) :
    InputStream.lineEnd ∉ bytes text := by
  rw [bytes_eq_flatMap]
  intro member
  rcases List.mem_flatMap.mp member with ⟨c, inText, encoded⟩
  exact lineEnd_not_mem_utf8EncodeChar (fun same => unbroken (same ▸ inText)) encoded

end Text

namespace InputStream

/-- The value of a line is `nil` if there is nothing, if the bytes are not a text, or if the text
does not denote a number where one is asked for. -/
theorem valueOfLine_eq_nil_iff {type : TypeName} {line : List UInt8} :
    valueOfLine type line = .nil ↔
      line = [] ∨ decode? line = none ∨ ∃ text, decode? line = some text ∧
        (type = .int ∧ Numeral.integer? (String.ofList (chomp text.toList)) = none ∨
          type = .float ∧ Binary64.ofText? (String.ofList (chomp text.toList)) = none) := by
  unfold valueOfLine
  cases line with
  | nil => simp
  | cons byte line =>
      rw [List.isEmpty_cons, if_neg Bool.false_ne_true]
      cases decode? (byte :: line) with
      | none => simp
      | some text =>
          cases type with
          | int =>
              cases found : Numeral.integer? (String.ofList (chomp text.toList)) <;> simp [found]
          | float =>
              cases found : Binary64.ofText? (String.ofList (chomp text.toList)) <;> simp [found]
          | bool => simp
          | string => simp

end InputStream

/-- A line of text with its end: a carriage return and a line feed, or a line feed alone, which is
not possible if the line itself ends in a carriage return. -/
structure TextLine where
  content : String
  returned : Bool
  unbroken : '\n' ∉ content.toList
  unambiguous : returned = false → content.toList.getLast? ≠ some '\r'

namespace TextLine

/-- The line and its end. -/
def text (line : TextLine) : String :=
  line.content ++ if line.returned then "\r\n" else "\n"

/-- The bytes of the line and its end. -/
def bytes (line : TextLine) : List UInt8 :=
  Text.bytes line.text

theorem chomp_text (line : TextLine) :
    InputStream.chomp line.text.toList = line.content.toList := by
  unfold text
  cases returned : line.returned with
  | true => simp [InputStream.chomp]
  | false => simp [InputStream.chomp, line.unambiguous returned]

/-- The line feed comes last, and a carriage return before it belongs to the bytes in front. -/
theorem exists_bytes_eq (line : TextLine) :
    ∃ clean, InputStream.lineEnd ∉ clean ∧ line.bytes = clean ++ [InputStream.lineEnd] := by
  have returnFree : '\n' ∉ (line.content ++ "\r").toList := by simpa using line.unbroken
  unfold bytes text
  cases line.returned with
  | true =>
      refine ⟨Text.bytes (line.content ++ "\r"), Text.lineEnd_not_mem_bytes returnFree, ?_⟩
      rw [Text.bytes_append, Text.bytes_append, List.append_assoc]
      rfl
  | false =>
      refine ⟨Text.bytes line.content, Text.lineEnd_not_mem_bytes line.unbroken, ?_⟩
      rw [Text.bytes_append]
      rfl

theorem divides_bytes (line : TextLine) (behind : List UInt8) :
    InputStream.Divides (line.bytes ++ behind) line.bytes behind := by
  rcases line.exists_bytes_eq with ⟨clean, unbroken, spelled⟩
  rw [spelled, List.append_assoc]
  exact .ended unbroken

theorem valueOfLine_bytes (line : TextLine) :
    InputStream.valueOfLine .string line.bytes = .string line.content := by
  rcases line.exists_bytes_eq with ⟨clean, -, spelled⟩
  have filled : line.bytes.isEmpty = false := by
    rw [spelled]
    simp
  rw [InputStream.valueOfLine, filled, if_neg Bool.false_ne_true, bytes, Text.decode?_bytes]
  simp only [chomp_text, String.ofList_toList]

end TextLine

/-! ## One read -/

/-- What is seen of a read: the type that it asks for, the bytes that it takes from the input, and
the value that its destination has afterwards, unless the read has faulted. -/
structure Reading where
  type : TypeName
  consumed : List UInt8
  value? : Option Value

/-- The type that an instruction reads, if it is a read. -/
def Instruction.readType? (instruction : Instruction) : Option TypeName :=
  if instruction.opcode = .read then (instruction.typeAt 1).toOption else none

theorem Instruction.readType?_eq_some_iff {instruction : Instruction} {type : TypeName} :
    instruction.readType? = some type ↔
      instruction.opcode = .read ∧ instruction.typeAt 1 = .ok type := by
  unfold readType?
  by_cases reads : instruction.opcode = .read
  · cases asked : instruction.typeAt 1 <;> simp [reads, Except.toOption]
  · simp [reads]

/-- A variable that has changed has its new value. -/
theorem FrameStore.ChangedAt.peek {before after : FrameStore} {v : Variable} {value : Value}
    (changed : before.ChangedAt after v value) : after.peek v = .ok value := by
  rcases changed.here with ⟨old, new, -, present, -, answers⟩
  have found : new.find? v.name = some value := (answers v.name).trans (if_pos rfl)
  exact FrameStore.peek_eq_ok_iff.mpr ⟨new, present, found⟩

namespace Action

/-- A read takes its line, whether or not it can assign the value, and no other instruction takes
anything. -/
theorem ensures_execute_takes (site : Site) (instruction : Instruction) (state : State) :
    Ensures (execute site instruction instruction.opcode.role) state
      (fun _ after => after.input =
        if instruction.readType?.isSome then state.input.takeLine.2 else state.input)
      (fun _ after => after.input =
        if instruction.readType?.isSome then state.input.takeLine.2 else state.input) := by
  by_cases reads : instruction.opcode = .read
  · cases asked : instruction.typeAt 1 with
    | ok type =>
        have some := Instruction.readType?_eq_some_iff.mpr ⟨reads, asked⟩
        simp [reads, some, Opcode.role, execute, ensures_bind, ensures_map, ensures_require, asked,
          ensures_takeLine, ensures_assignAt]
    | error refused =>
        simp [reads, Instruction.readType?, Except.toOption, Opcode.role, execute, ensures_bind,
          ensures_require, asked]
  · have other : instruction.readType?.isSome = false := by simp [Instruction.readType?, reads]
    have notRead : instruction.opcode.role ≠ .read := fun played =>
      reads (Opcode.role_injective played)
    rw [other]
    refine (ensures_execute_input site instruction instruction.opcode.role state).imp ?_ ?_
    · intro control after effect
      exact effect.changed.resolve_right fun taken => notRead taken.1
    · intro error after effect
      exact effect.resolve_right fun taken => notRead taken.1

end Action

namespace Machine

variable {machine : Machine} {bytes : List UInt8} {reading : Reading}

/-- The bytes that the next step takes from the input. -/
def consumed (machine : Machine) : List UInt8 :=
  let before := machine.state.input.bytes
  before.take (before.length - machine.step.state.input.bytes.length)

/-- The value that the next step leaves in the variable in the first slot of an instruction, unless
it faults. -/
def assigned? (machine : Machine) (instruction : Instruction) : Option Value :=
  match machine.step.status with
  | .faulted _ => none
  | _ => (instruction.varAt 0).toOption.bind fun v => (machine.step.state.frames.peek v).toOption

/-- What the next step reads, if it is a read. -/
def reading? (machine : Machine) : Option Reading :=
  match machine.status with
  | .running position => do
      let instruction ← machine.program.at? position
      let type ← instruction.readType?
      return ⟨type, machine.consumed, machine.assigned? instruction⟩
  | _ => none

/-- The reads of a number of steps, in the order of execution. -/
def readings (machine : Machine) (count : Nat) : List Reading :=
  (List.range count).filterMap fun index => (step^[index] machine).reading?

theorem readings_succ (machine : Machine) (count : Nat) :
    machine.readings (count + 1) =
      machine.readings count ++ (step^[count] machine).reading?.toList :=
  filterMap_range_succ _ count

theorem reading?_eq_some_iff :
    machine.reading? = some reading ↔ ∃ position instruction,
      machine.status = .running position ∧ machine.program.at? position = some instruction ∧
        instruction.readType? = some reading.type ∧ reading.consumed = machine.consumed ∧
        reading.value? = machine.assigned? instruction := by
  unfold reading?
  rcases reading with ⟨type, consumed, value⟩
  cases machine.status with
  | running position =>
      simp [Option.bind_eq_some_iff, @eq_comm _ consumed, @eq_comm _ value]
  | halted code => simp
  | faulted fault => simp

/-- A step takes a line if it is a read. -/
theorem step_takes {position : Nat} {instruction : Instruction}
    (running : machine.status = .running position)
    (fetched : machine.program.at? position = some instruction) :
    machine.step.state.input = if instruction.readType?.isSome then machine.state.input.takeLine.2
      else machine.state.input :=
  step_state (motive := fun after => after.input = if instruction.readType?.isSome then
      machine.state.input.takeLine.2 else machine.state.input) running fetched
    (Action.ensures_execute_takes (machine.siteAt position) instruction machine.state)

/-- A step that is no read takes nothing. -/
theorem input_of_reading?_eq_none (idle : machine.reading? = none) :
    machine.step.state.input = machine.state.input := by
  rcases step_state_or_running machine with same | ⟨position, instruction, running, fetched⟩
  · rw [same]
  · cases asked : instruction.readType? with
    | none =>
        rw [step_takes running fetched, asked]
        rfl
    | some type =>
        have reads : machine.reading? =
            some ⟨type, machine.consumed, machine.assigned? instruction⟩ :=
          reading?_eq_some_iff.mpr ⟨position, instruction, running, fetched, asked, rfl, rfl⟩
        rw [idle] at reads
        cases reads

/-- A read takes the next line. -/
theorem divides_of_reading? (fed : machine.state.input = .ofBytes bytes)
    (reads : machine.reading? = some reading) :
    ∃ rest, InputStream.Divides bytes reading.consumed rest ∧
      machine.step.state.input = .ofBytes rest := by
  rcases reading?_eq_some_iff.mp reads with
    ⟨position, instruction, running, fetched, asked, took, -⟩
  rcases InputStream.exists_divides bytes with ⟨line, rest, divides⟩
  have after : machine.step.state.input = .ofBytes rest := by
    rw [step_takes running fetched, asked, fed, InputStream.takeLine_ofBytes divides]
    rfl
  have here : reading.consumed = line := by
    rw [took, consumed, after, fed]
    simp [InputStream.ofBytes, divides.append]
  exact ⟨rest, here ▸ divides, after⟩

/-- A read leaves the value of its line in its destination, or it has faulted. -/
theorem outcome_of_reading? (fed : machine.state.input = .ofBytes bytes)
    (reads : machine.reading? = some reading) :
    reading.value? = some (InputStream.valueOfLine reading.type reading.consumed) ∨
      reading.value? = none ∧ ∃ fault, machine.step.status = .faulted fault := by
  rcases reading?_eq_some_iff.mp reads with
    ⟨position, instruction, running, fetched, asked, -, value⟩
  rcases divides_of_reading? fed reads with ⟨rest, divides, -⟩
  rcases Instruction.readType?_eq_some_iff.mp asked with ⟨opcode, type⟩
  rw [value, assigned?]
  split
  · rename_i fault faulted
    exact Or.inr ⟨rfl, fault, faulted⟩
  · rename_i unfaulted
    left
    have execution := Action.ensures_execute_frames (machine.siteAt position) instruction
      instruction.opcode.role machine.state
    rcases success_rule running fetched execution unfaulted with ⟨-, change⟩
    rw [opcode] at change
    rcases change with ⟨v, given, destination, ⟨_, line, sameType, taken, rfl⟩, -, changed⟩
    cases type.symm.trans sameType
    rw [fed, InputStream.takeLine_ofBytes divides] at taken
    cases taken
    simp [destination, changed.peek, Except.toOption]

/-! ## All reads of a run -/

/-- The reads of a run take lines one after the other. -/
theorem takes_readings (fed : machine.state.input = .ofBytes bytes) (count : Nat) :
    ∃ rest, (step^[count] machine).state.input = .ofBytes rest ∧
      InputStream.Takes bytes ((machine.readings count).map Reading.consumed) rest := by
  induction count with
  | zero => exact ⟨bytes, fed, .nil⟩
  | succ count inductionHypothesis =>
      rcases inductionHypothesis with ⟨rest, fedHere, takes⟩
      rw [Function.iterate_succ_apply', readings_succ]
      cases reads : (step^[count] machine).reading? with
      | none =>
          rw [Option.toList_none, List.append_nil]
          exact ⟨rest, (input_of_reading?_eq_none reads).trans fedHere, takes⟩
      | some reading =>
          rcases divides_of_reading? fedHere reads with ⟨behind, divides, fedNext⟩
          rw [Option.toList_some, List.map_append]
          exact ⟨behind, fedNext, takes.concat divides⟩

/-- Every read of a run has the value of its line, except that the last one may have faulted. -/
theorem outcome_of_readings (fed : machine.state.input = .ofBytes bytes) {count index : Nat}
    (listed : (machine.readings count)[index]? = some reading) :
    reading.value? = some (InputStream.valueOfLine reading.type reading.consumed) ∨
      reading.value? = none ∧ index + 1 = (machine.readings count).length ∧
        ∃ fault, (step^[count] machine).status = .faulted fault := by
  induction count with
  | zero => cases listed
  | succ count inductionHypothesis =>
      rw [readings_succ] at listed ⊢
      rw [Function.iterate_succ_apply']
      cases reads : (step^[count] machine).reading? with
      | none =>
          rw [reads, Option.toList_none, List.append_nil] at listed
          rw [Option.toList_none, List.append_nil]
          refine (inductionHypothesis listed).imp_right ?_
          rintro ⟨missing, last, fault, faulted⟩
          rw [step_of_not_running (congrArg Status.isRunning faulted)]
          exact ⟨missing, last, fault, faulted⟩
      | some next =>
          rw [reads, Option.toList_some, List.getElem?_append] at listed
          split at listed
          · -- A machine that has faulted does not read any more.
            refine (inductionHypothesis listed).imp_right ?_
            rintro ⟨-, -, fault, faulted⟩
            rcases reading?_eq_some_iff.mp reads with ⟨position, -, running, -⟩
            cases faulted.symm.trans running
          · rename_i beyond
            rcases List.getElem?_eq_some_iff.mp listed with ⟨bound, rfl⟩
            rw [List.length_singleton] at bound
            rcases takes_readings fed count with ⟨rest, fedHere, -⟩
            refine (outcome_of_reading? fedHere reads).imp ?_ ?_
            · intro given
              simpa using given
            · rintro ⟨missing, faulted⟩
              refine ⟨by simpa using missing, ?_, faulted⟩
              rw [Option.toList_some, List.length_append, List.length_singleton]
              omega

/-- A value that a read has given is the value of its line. -/
theorem value_of_mem_readings (fed : machine.state.input = .ofBytes bytes) {count : Nat}
    (member : reading ∈ machine.readings count) {value : Value}
    (given : reading.value? = some value) :
    value = InputStream.valueOfLine reading.type reading.consumed := by
  rcases List.getElem?_of_mem member with ⟨index, listed⟩
  rcases outcome_of_readings fed listed with some | ⟨none, -⟩
  · exact Option.some.inj (given.symm.trans some)
  · cases given.symm.trans none

/-- Reads that ask for a string give back the lines of a text, and then nothing. -/
theorem value_of_textLines {lines : List TextLine}
    (fed : machine.state.input = .ofBytes (lines.flatMap TextLine.bytes)) {count index : Nat}
    (listed : (machine.readings count)[index]? = some reading) (asked : reading.type = .string)
    {value : Value} (given : reading.value? = some value) :
    value = (lines[index]?.map fun line => .string line.content).getD .nil := by
  rw [value_of_mem_readings fed (List.mem_of_getElem? listed) given, asked]
  rcases takes_readings fed count with ⟨rest, -, takes⟩
  have divides : ∀ line ∈ lines.map TextLine.bytes, ∀ behind,
      InputStream.Divides (line ++ behind) line behind := by
    intro line member behind
    rcases List.mem_map.mp member with ⟨textLine, -, rfl⟩
    exact textLine.divides_bytes behind
  have taken : ((machine.readings count).map Reading.consumed)[index]? = some reading.consumed := by
    rw [List.getElem?_map, listed, Option.map_some]
  rw [takes.getElem? divides taken, List.getElem?_map]
  cases lines[index]? with
  | none => rfl
  | some line => exact line.valueOfLine_bytes

/-- Reads take the lines of the input one after the other, and nothing is lost.  Take any machine
whose input is a stream of bytes that does not fail, and any number of its steps, with reads of any
types among them.  The bytes that these reads take, one behind the other, are the beginning of the
input, and the rest is what is left.  Each read takes what is left up to and including the first
line end, or all of it if there is none.  The value that it leaves in its destination is a function
of these bytes and of the type; only the last read can fail to leave one, because it faults.  A read
takes nothing exactly if nothing is left, and then it and all later reads give `nil`.

The function gives `nil` for no bytes, for bytes that are not a text, and for a text that does not
denote a number if a number is asked for.  It follows that reads of strings give back the lines of
a text, each with its line feed or with a carriage return and a line feed behind it, and then
`nil`. -/
theorem reads_take_successive_lines {machine : Machine} {bytes : List UInt8}
    (fed : machine.state.input = .ofBytes bytes) (count : Nat) :
    let readings := machine.readings count
    let after := step^[count] machine
    (∃ rest, after.state.input = .ofBytes rest ∧
      bytes = readings.flatMap Reading.consumed ++ rest) ∧
    (∀ earlier reading later, readings = earlier ++ reading :: later →
      ∃ left behind, bytes = earlier.flatMap Reading.consumed ++ left ∧
        InputStream.Divides left reading.consumed behind ∧
        (reading.value? = some (InputStream.valueOfLine reading.type reading.consumed) ∨
          reading.value? = none ∧ later = [] ∧ ∃ fault, after.status = .faulted fault) ∧
        (reading.consumed = [] ↔ left = []) ∧
        (left = [] → ∀ each ∈ reading :: later, each.consumed = [] ∧
          ∀ value, each.value? = some value → value = .nil)) ∧
    (∀ type line, InputStream.valueOfLine type line = .nil ↔
      line = [] ∨ InputStream.decode? line = none ∨
        ∃ text, InputStream.decode? line = some text ∧
          let content := String.ofList (InputStream.chomp text.toList)
          (type = .int ∧ Numeral.integer? content = none ∨
            type = .float ∧ Binary64.ofText? content = none)) ∧
    ∀ lines : List TextLine, bytes = lines.flatMap TextLine.bytes →
      ∀ (index : Nat) (reading : Reading) (value : Value), readings[index]? = some reading →
        reading.type = .string → reading.value? = some value →
          value = (lines[index]?.map fun line => .string line.content).getD .nil := by
  intro readings after
  rcases takes_readings fed count with ⟨rest, fedAfter, takes⟩
  refine ⟨⟨rest, fedAfter, ?_⟩, ?_, fun _ _ => InputStream.valueOfLine_eq_nil_iff, ?_⟩
  · rw [List.flatMap_def]
    exact takes.flatten
  · intro earlier reading later listed
    have members : ∀ each ∈ reading :: later, each ∈ machine.readings count := by
      intro each member
      rw [show machine.readings count = _ from listed]
      exact List.mem_append_right earlier member
    rw [show machine.readings count = _ from listed, List.map_append, List.map_cons] at takes
    rcases takes.split with ⟨left, first, others⟩
    cases others with
    | @cons _ _ behind _ _ divides others =>
        refine ⟨left, behind, ?_, divides, ?_, divides.eq_nil_iff, fun exhausted => ?_⟩
        · rw [List.flatMap_def]
          exact first.flatten
        · have here : (machine.readings count)[earlier.length]? = some reading := by
            rw [show machine.readings count = _ from listed]
            simp
          refine (outcome_of_readings fed here).imp_right ?_
          rintro ⟨missing, last, faulted⟩
          rw [show machine.readings count = _ from listed, List.length_append,
            List.length_cons] at last
          exact ⟨missing, List.length_eq_zero_iff.mp (by omega), faulted⟩
        · intro each member
          have nothing : each.consumed = [] :=
            (InputStream.Takes.cons divides others).eq_nil_of_mem exhausted _
              (List.mem_map_of_mem (f := Reading.consumed) member)
          refine ⟨nothing, fun value given => ?_⟩
          rw [value_of_mem_readings fed (members each member) given, nothing]
          rfl
  · rintro lines rfl index reading value listed asked given
    exact value_of_textLines fed listed asked given

/-- Three reads of two lines.  The carriage return that belongs to the second line stays, because
another one stands before the line feed. -/
theorem reads_take_successive_lines_two_lines :
    let lines : List TextLine :=
      [⟨"a", false, by decide, by decide⟩, ⟨"b\r", true, by decide, by decide⟩]
    let bytes := lines.flatMap TextLine.bytes
    let target : Operand := .var ⟨.global, "x"⟩
    let read : Instruction := ⟨2, .read, [target, .type .string]⟩
    let program : Program := ⟨[⟨1, .defVar, [target]⟩, read, read, read], ⟨[]⟩⟩
    let machine := start program (.ofBytes bytes) .unlimited .unlimited true none
    machine.state.input = .ofBytes bytes ∧ (machine.readings 4).length = 3 ∧
      (step^[4] machine).status = .halted 0 ∧
      ∀ (index : Nat) (reading : Reading), (machine.readings 4)[index]? = some reading →
        reading.value? = some (([.string "a", .string "b\r"] : List Value)[index]?.getD .nil) := by
  intro lines bytes target read program machine
  have fed : machine.state.input = .ofBytes bytes := rfl
  have halted : (step^[4] machine).status = .halted 0 := by decide +kernel
  have strings : ∀ reading ∈ machine.readings 4, reading.type = .string := by decide +kernel
  rcases reads_take_successive_lines fed 4 with ⟨-, successive, -, listed⟩
  refine ⟨fed, by decide +kernel, halted, fun index reading here => ?_⟩
  have member : reading ∈ machine.readings 4 := List.mem_of_getElem? here
  rcases List.append_of_mem member with ⟨earlier, later, split⟩
  rcases successive earlier reading later split with ⟨-, -, -, -, given | ⟨-, -, _, faulted⟩, -⟩
  · rw [given, listed lines rfl index reading _ here (strings reading member) given,
      ← List.getElem?_map]
    rfl
  · cases halted.symm.trans faulted

end Machine
end FrameMachine
