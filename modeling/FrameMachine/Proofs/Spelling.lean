import FrameMachine.Listing.Assembly
import FrameMachine.Proofs.OpcodeTable
import Mathlib.Data.List.Forall2

namespace FrameMachine

/-!
# Spellings

Listings are texts: an opcode is a word with blanks around it, and an argument is a text of
a declared kind.  The readers of these texts are functions that end with an error.  Here it
is said, without them, which texts spell which opcodes, variables and operands, and each
reader is shown to find exactly what is spelled.  Only the numerals are left to their own
readers.
-/

/-! ## Words between blanks -/

namespace Text

theorem trimStart_append {before : List Char} (blank : ∀ c ∈ before, isBlank c = true)
    (text : List Char) : trimStart (before ++ text) = trimStart text :=
  List.dropWhile_append_of_pos blank

theorem trimStart_of_first {c : Char} (first : isBlank c = false) (rest : List Char) :
    trimStart (c :: rest) = c :: rest :=
  List.dropWhile_cons_of_neg (Bool.eq_false_iff.mp first)

theorem trimStart_of_clear {word : List Char} (clear : ∀ c ∈ word, isBlank c = false) :
    trimStart word = word := by
  cases word with
  | nil => rfl
  | cons c rest => exact trimStart_of_first (clear c List.mem_cons_self) rest

/-- What is trimmed from the start of a text is blank. -/
theorem exists_trimStart (text : List Char) :
    ∃ before, (∀ c ∈ before, isBlank c = true) ∧ text = before ++ trimStart text :=
  ⟨text.takeWhile isBlank, List.all_eq_true.mp List.all_takeWhile,
    List.takeWhile_append_dropWhile.symm⟩

/-- Trimming removes blanks and nothing else. -/
theorem exists_trim (text : List Char) :
    ∃ before after, (∀ c ∈ before, isBlank c = true) ∧ (∀ c ∈ after, isBlank c = true) ∧
      text = before ++ trim text ++ after := by
  obtain ⟨before, blankBefore, start⟩ := exists_trimStart text
  obtain ⟨after, blankAfter, stop⟩ := exists_trimStart (trimStart text).reverse
  refine ⟨before, after.reverse, blankBefore, ?_, ?_⟩
  · intro c member
    exact blankAfter c (List.mem_reverse.mp member)
  · have turned : trimStart text = trim text ++ after.reverse := by
      rw [trim, ← List.reverse_append, ← stop, List.reverse_reverse]
    rw [List.append_assoc, ← turned]
    exact start

/-- A word without blanks is what is left when the blanks around it are trimmed. -/
theorem trim_of_clear {before word after : List Char} (blankBefore : ∀ c ∈ before, isBlank c = true)
    (blankAfter : ∀ c ∈ after, isBlank c = true) (clear : ∀ c ∈ word, isBlank c = false) :
    trim (before ++ word ++ after) = word := by
  have reversed : ∀ c ∈ after.reverse, isBlank c = true := by
    intro c member
    exact blankAfter c (List.mem_reverse.mp member)
  have clearReversed : ∀ c ∈ word.reverse, isBlank c = false := by
    intro c member
    exact clear c (List.mem_reverse.mp member)
  rw [trim, List.append_assoc, trimStart_append blankBefore]
  cases word with
  | nil =>
      have nothing : trimStart after = [] := by
        have all := trimStart_append blankAfter []
        rwa [List.append_nil] at all
      rw [List.nil_append, nothing]
      rfl
  | cons c rest =>
      rw [List.cons_append, trimStart_of_first (clear c List.mem_cons_self), ← List.cons_append,
        List.reverse_append, trimStart_append reversed, trimStart_of_clear clearReversed,
        List.reverse_reverse]

end Text

/-- The text is the name of the opcode, in letters of either case and with blanks around
it. -/
def Opcode.SpelledBy (opcode : Opcode) (text : List Char) : Prop :=
  ∃ before word after, text = before ++ word ++ after ∧
    (∀ c ∈ before, Text.isBlank c = true) ∧ (∀ c ∈ after, Text.isBlank c = true) ∧
    word.map Char.toLower = opcode.mnemonic.toList.map Char.toLower

theorem Opcode.ofName?_trim_eq_some_iff {text : List Char} {opcode : Opcode} :
    ofName? (Text.trim text) = some opcode ↔ opcode.SpelledBy text := by
  rw [ofName?_eq_some_iff]
  constructor
  · intro spelled
    obtain ⟨before, after, blankBefore, blankAfter, parts⟩ := Text.exists_trim text
    exact ⟨before, Text.trim text, after, parts, blankBefore, blankAfter, spelled⟩
  · rintro ⟨before, word, after, parts, blankBefore, blankAfter, spelled⟩
    rw [parts, Text.trim_of_clear blankBefore blankAfter (isBlank_of_spelling spelled)]
    exact spelled

/-! ## Variables -/

namespace Text

variable {mark : Char} {before after : List Char}

/-- A text is divided at the first character that divides it. -/
theorem splitAtFirst_append {divides : Char → Bool} (clear : ∀ c ∈ before, divides c = false)
    (marked : divides mark = true) :
    splitAtFirst divides (before ++ mark :: after) = (before, some after) := by
  induction before with
  | nil => simp [splitAtFirst, marked]
  | cons c before inductionHypothesis =>
      rw [List.cons_append, splitAtFirst, clear c List.mem_cons_self,
        inductionHypothesis fun other member => clear other (List.mem_cons_of_mem c member)]
      rfl

/-- A text in which no character divides is left whole. -/
theorem splitAtFirst_of_clear {divides : Char → Bool} {text : List Char}
    (clear : ∀ c ∈ text, divides c = false) : splitAtFirst divides text = (text, none) := by
  induction text with
  | nil => rfl
  | cons c rest inductionHypothesis =>
      rw [splitAtFirst, clear c List.mem_cons_self,
        inductionHypothesis fun other member => clear other (List.mem_cons_of_mem c member)]
      rfl

/-- A text is divided at the first mark in it. -/
theorem splitAtFirst_of_mark (absent : mark ∉ before) :
    splitAtFirst (· == mark) (before ++ mark :: after) = (before, some after) := by
  apply splitAtFirst_append
  · intro c member
    exact beq_eq_false_iff_ne.mpr fun same => absent (same ▸ member)
  · exact beq_self_eq_true mark

/-- The two parts of a divided text are all of it but the mark. -/
theorem splitAtFirst_eq_some {text : List Char}
    (split : splitAtFirst (· == mark) text = (before, some after)) :
    text = before ++ mark :: after := by
  induction text generalizing before with
  | nil => simp [splitAtFirst] at split
  | cons c rest inductionHypothesis =>
      rw [splitAtFirst] at split
      by_cases here : c = mark
      · rw [if_pos (by simpa using here), Prod.mk.injEq, Option.some.injEq] at split
        rw [here, ← split.1, ← split.2, List.nil_append]
      · rw [if_neg (by simpa using here)] at split
        rcases Prod.mk.inj split with ⟨heads, tails⟩
        rw [inductionHypothesis (Prod.ext rfl tails), ← heads]
        rfl

end Text

theorem Scope.ofName?_eq_some_iff {name : String} {scope : Scope} :
    ofName? name = some scope ↔ name = scope.name := by
  constructor
  · intro found
    unfold ofName? at found
    split at found <;> cases found <;> rfl
  · intro same
    subst same
    cases scope <;> rfl

/-- A variable is read from its own text, and from no other. -/
theorem Variable.ofText_eq_ok_iff {text : String} {v : Variable} :
    ofText text = .ok v ↔ text = v.text ∧ v.name ≠ "" := by
  constructor
  · intro read
    unfold ofText at read
    split at read
    · cases read
    · rename_i scope name split
      cases found : Scope.ofName? (String.ofList scope) with
      | none => simp [found] at read
      | some place =>
          by_cases empty : name.isEmpty = true
          · simp [found, empty] at read
          · simp only [found, if_neg empty, Except.ok.injEq] at read
            have parts := Text.splitAtFirst_eq_some split
            have placed := Scope.ofName?_eq_some_iff.mp found
            subst read
            constructor
            · apply String.toList_inj.mp
              rw [parts, Variable.text, ← placed]
              simp
            · simpa using empty
  · rintro ⟨rfl, named⟩
    have absent : '@' ∉ v.scope.name.toList := by
      cases v.scope <;> decide
    have parts : v.text.toList = v.scope.name.toList ++ '@' :: v.name.toList := by
      simp [Variable.text]
    have nonempty : v.name.toList.isEmpty = false := by
      simpa using named
    unfold ofText
    rw [parts, Text.splitAtFirst_of_mark absent]
    simp only [String.ofList_toList, Scope.ofName?_eq_some_iff.mpr rfl, nonempty]
    rfl

theorem Variable.ofText_error {text : String} {error : Error} (failed : ofText text = .error error) :
    error.kind = .malformedProgram := by
  unfold ofText at failed
  split at failed
  · cases failed
    rfl
  · split at failed
    · cases failed
      rfl
    · split at failed <;> cases failed
      rfl

/-! ## Arguments -/

theorem TypeName.ofName?_eq_some_iff {name : String} {type : TypeName} :
    ofName? name = some type ↔ name = type.name := by
  constructor
  · intro found
    unfold ofName? at found
    split at found <;> cases found <;> rfl
  · intro same
    subst same
    cases type <;> rfl

namespace Listing.Argument

/-- The operand that an argument of a declared kind denotes. -/
inductive Denotes : Argument → Operand → Prop
  | var (v : Variable) (named : v.name ≠ "") : Denotes ⟨"var", v.text⟩ (.var v)
  | label (name : String) (named : name ≠ "") : Denotes ⟨"label", name⟩ (.label name)
  | type (type : TypeName) : Denotes ⟨"type", type.name⟩ (.type type)
  | int (text : String) (n : Int64) (numeral : Numeral.integer? text = some n) :
      Denotes ⟨"int", text⟩ (.literal (.int n))
  | float (text : String) (x : Binary64) (numeral : Binary64.ofText? text = some x) :
      Denotes ⟨"float", text⟩ (.literal (.float x))
  | bool (b : Bool) : Denotes ⟨"bool", Value.boolText b⟩ (.literal (.bool b))
  | string (text : String) : Denotes ⟨"string", text⟩ (.literal (.string text))
  | nil : Denotes ⟨"nil", "nil"⟩ (.literal .nil)

theorem literal?_eq_some_iff {kind text : String} {value : Value} :
    literal? kind text = some (some value) ↔ Denotes ⟨kind, text⟩ (.literal value) := by
  constructor
  · intro found
    unfold literal? at found
    split at found
    · rcases Option.map_eq_some_iff.mp (Option.some.inj found) with ⟨n, numeral, rfl⟩
      exact .int text n numeral
    · rcases Option.map_eq_some_iff.mp (Option.some.inj found) with ⟨x, numeral, rfl⟩
      exact .float text x numeral
    · by_cases yes : text = "true"
      · subst yes
        cases found
        exact .bool true
      · by_cases no : text = "false"
        · subst no
          cases found
          exact .bool false
        · simp [yes, no] at found
    · cases found
      exact .string text
    · by_cases same : text = "nil"
      · subst same
        cases found
        exact .nil
      · simp [same] at found
    · cases found
  · intro denotes
    cases denotes with
    | int text n numeral => simp [literal?, numeral]
    | float text x numeral => simp [literal?, numeral]
    | bool b => cases b <;> rfl
    | string text => rfl
    | nil => rfl

/-- The declared operand of an argument is the one that it denotes. -/
theorem declared_eq_ok_iff {argument : Argument} {operand : Operand} :
    argument.declared = .ok operand ↔ argument.Denotes operand := by
  rcases argument with ⟨kind, text⟩
  constructor
  · intro declared
    unfold Argument.declared at declared
    split at declared
    · rename_i same
      cases read : Variable.ofText text with
      | error error => simp [read] at declared
      | ok v =>
          simp only [read, Except.ok.injEq] at declared
          rcases Variable.ofText_eq_ok_iff.mp read with ⟨rfl, named⟩
          subst declared same
          exact .var v named
    · rename_i same
      by_cases empty : text = ""
      · simp [empty] at declared
      · simp only [if_neg empty, Except.ok.injEq] at declared
        subst declared same
        exact .label text empty
    · rename_i same
      cases found : TypeName.ofName? text with
      | none => simp [found] at declared
      | some type =>
          simp only [found, Except.ok.injEq] at declared
          rw [TypeName.ofName?_eq_some_iff.mp found]
          subst declared same
          exact .type type
    · cases found : literal? kind text with
      | none => simp [found] at declared
      | some literal =>
          cases literal with
          | none => simp [found] at declared
          | some value =>
              simp only [found, Except.ok.injEq] at declared
              subst declared
              exact literal?_eq_some_iff.mp found
  · intro denotes
    cases denotes with
    | var v named =>
        simp [declared, Variable.ofText_eq_ok_iff.mpr ⟨rfl, named⟩]
    | label name named => simp [declared, named]
    | type type => simp [declared, TypeName.ofName?_eq_some_iff.mpr rfl]
    | int text n numeral => simp [declared, literal?, numeral]
    | float text x numeral => simp [declared, literal?, numeral]
    | bool b => cases b <;> rfl
    | string text => rfl
    | nil => rfl

theorem declared_error {argument : Argument} {error : Error}
    (failed : argument.declared = .error error) : error.kind = .malformedProgram := by
  unfold declared at failed
  split at failed
  · split at failed <;> cases failed
    exact Variable.ofText_error ‹_›
  · split at failed <;> cases failed
    rfl
  · split at failed <;> cases failed
    rfl
  · split at failed <;> cases failed <;> rfl

theorem operand_eq_ok_iff {argument : Argument} {slot : Slot} {operand : Operand} :
    argument.operand slot = .ok operand ↔
      argument.Denotes operand ∧ operand.fits slot = true := by
  rw [← declared_eq_ok_iff]
  unfold Argument.operand
  cases argument.declared with
  | error error => simp
  | ok found =>
      by_cases fits : found.fits slot = true
      · simp only [if_pos fits, Except.ok.injEq]
        exact ⟨fun same => ⟨same, same ▸ fits⟩, fun both => both.1⟩
      · simp only [if_neg fits, reduceCtorEq, Except.ok.injEq, false_iff, not_and]
        exact fun same => same ▸ fits

theorem operand_error {argument : Argument} {slot : Slot} {error : Error}
    (failed : argument.operand slot = .error error) : error.kind = .malformedProgram := by
  unfold operand at failed
  split at failed
  · split at failed <;> cases failed
    rfl
  · cases failed
    exact declared_error ‹_›

/-- The operands that arguments give to as many slots: each is denoted by its argument and
fits its slot. -/
theorem operands_eq_ok_iff {arguments : List Argument} {slots : List Slot}
    (length : arguments.length = slots.length) {given : List Operand} :
    operands arguments slots = .ok given ↔
      List.Forall₂ Denotes arguments given ∧
        List.Forall₂ (fun operand slot => operand.fits slot = true) given slots := by
  induction arguments generalizing slots given with
  | nil =>
      cases slots with
      | nil => cases given <;> simp [operands]
      | cons slot slots => cases length
  | cons argument arguments inductionHypothesis =>
      cases slots with
      | nil => cases length
      | cons slot slots =>
          have shorter : arguments.length = slots.length := Nat.succ.inj length
          rw [operands]
          constructor
          · intro made
            cases first : argument.operand slot with
            | error error => simp [first] at made
            | ok operand =>
                cases behind : operands arguments slots with
                | error error => simp [first, behind] at made
                | ok rest =>
                    simp only [first, behind, Except.ok.injEq] at made
                    subst made
                    have here := operand_eq_ok_iff.mp first
                    have later := (inductionHypothesis shorter).mp behind
                    exact ⟨.cons here.1 later.1, .cons here.2 later.2⟩
          · rintro ⟨denoted, fitting⟩
            cases denoted with
            | cons here later =>
                cases fitting with
                | cons fits others =>
                    have first := operand_eq_ok_iff.mpr ⟨here, fits⟩
                    have behind := (inductionHypothesis shorter).mpr ⟨later, others⟩
                    simp only [first, behind]

theorem operands_error {arguments : List Argument} {slots : List Slot} {error : Error}
    (failed : operands arguments slots = .error error) : error.kind = .malformedProgram := by
  induction arguments generalizing slots with
  | nil => cases slots <;> cases failed
  | cons argument arguments inductionHypothesis =>
      cases slots with
      | nil => cases failed
      | cons slot slots =>
          rw [operands] at failed
          split at failed
          · split at failed <;> cases failed
            exact inductionHypothesis ‹_›
          · cases failed
            exact operand_error ‹_›

end Listing.Argument
end FrameMachine
