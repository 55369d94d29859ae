import FrameMachine.Json.Reader
import FrameMachine.Json.Writer
import FrameMachine.Proofs.Digits
import Mathlib.Data.List.TakeWhile

namespace FrameMachine
namespace Json

/-!
# Documents that are written and read

What is written for a document is read as the same document, with one exception: the reader
refuses what is nested too deeply, and it does so for every document that is.  The reader takes
a value from the front of a text, so each part is read back in front of whatever follows it.
Only a number must know what follows, because a digit more would be part of it.

Numbers that are not integers are kept as they are written.  `IsDocument` asks of such a numeral
that the reader would have kept it, and of the other values nothing.
-/

/-! ## Numbers -/

/-- The characters that stand in numbers. -/
def isNumeric (c : Char) : Bool :=
  c.isDigit || ['.', 'e', 'E', '+', '-'].contains c

/-- The text behind a number cannot be part of it. -/
def EndsNumber (rest : List Char) : Prop :=
  ∀ c ∈ rest.head?, isNumeric c = false

theorem endsNumber_nil : EndsNumber [] :=
  fun _ member => nomatch member

theorem endsNumber_cons {mark : Char} (rest : List Char)
    (isMark : mark = ',' ∨ mark = ']' ∨ mark = '}') : EndsNumber (mark :: rest) := by
  intro c member
  cases member
  rcases isMark with rfl | rfl | rfl <;> decide

section Number

variable {text rest left digits : List Char}

/-- If a mark of numbers does not stand in front of a text, then what follows the text does not
bring it there. -/
theorem EndsNumber.append_ne_cons {mark : Char} (ends : EndsNumber rest)
    (absent : ∀ tail, text ≠ mark :: tail) (numeric : isNumeric mark = true) (tail : List Char) :
    text ++ rest ≠ mark :: tail := by
  intro same
  rcases List.append_eq_cons_iff.mp same with ⟨-, behind⟩ | ⟨inner, front, -⟩
  · have ended := ends mark (by simp [behind])
    rw [numeric] at ended
    cases ended
  · exact absent inner front

theorem someDigits?_append (ends : EndsNumber rest)
    (read : someDigits? text = some (digits, left)) :
    someDigits? (text ++ rest) = some (digits, left ++ rest) := by
  have noDigit : rest.takeWhile Char.isDigit = [] ∧ rest.dropWhile Char.isDigit = rest := by
    cases rest with
    | nil => exact ⟨rfl, rfl⟩
    | cons c rest => simp [(Bool.or_eq_false_iff.mp (ends c rfl)).1]
  have taken : (text ++ rest).takeWhile Char.isDigit = text.takeWhile Char.isDigit := by
    rw [List.takeWhile_append, noDigit.1, List.append_nil]
    split
    · rename_i whole
      exact ((List.takeWhile_prefix Char.isDigit).eq_of_length whole).symm
    · rfl
  have dropped : (text ++ rest).dropWhile Char.isDigit = text.dropWhile Char.isDigit ++ rest := by
    rw [List.dropWhile_append, noDigit.2]
    split
    · rename_i nothing
      rw [List.isEmpty_iff.mp nothing, List.nil_append]
    · rfl
  unfold someDigits? at read ⊢
  simp only [taken, dropped] at read ⊢
  split at read <;> cases read
  rw [if_neg ‹_›]

theorem wholeDigits?_append (ends : EndsNumber rest)
    (read : wholeDigits? text = some (digits, left)) :
    wholeDigits? (text ++ rest) = some (digits, left ++ rest) := by
  unfold wholeDigits? at read
  split at read
  · cases read
    rfl
  · rename_i noZero
    rw [wholeDigits?]
    · exact someDigits?_append ends read
    · exact ends.append_ne_cons noZero rfl

theorem fraction?_append (ends : EndsNumber rest)
    (read : fraction? text = some (digits, left)) :
    fraction? (text ++ rest) = some (digits, left ++ rest) := by
  unfold fraction? at read
  split at read
  · rcases Option.map_eq_some_iff.mp read with ⟨⟨taken, behind⟩, found, same⟩
    cases same
    rw [List.cons_append, fraction?, someDigits?_append ends found]
    rfl
  · rename_i noPoint
    cases read
    rw [fraction?]
    exact ends.append_ne_cons noPoint rfl

theorem signedDigits?_append (ends : EndsNumber rest)
    (read : signedDigits? text = some (digits, left)) :
    signedDigits? (text ++ rest) = some (digits, left ++ rest) := by
  unfold signedDigits? at read
  split at read
  · rcases Option.map_eq_some_iff.mp read with ⟨⟨taken, behind⟩, found, same⟩
    cases same
    rw [List.cons_append, signedDigits?, someDigits?_append ends found]
    rfl
  · rcases Option.map_eq_some_iff.mp read with ⟨⟨taken, behind⟩, found, same⟩
    cases same
    rw [List.cons_append, signedDigits?, someDigits?_append ends found]
    rfl
  · rename_i noPlus noMinus
    rw [signedDigits?]
    · exact someDigits?_append ends read
    · exact ends.append_ne_cons noPlus rfl
    · exact ends.append_ne_cons noMinus rfl

theorem exponent?_append (ends : EndsNumber rest)
    (read : exponent? text = some (digits, left)) :
    exponent? (text ++ rest) = some (digits, left ++ rest) := by
  unfold exponent? at read
  split at read
  · rcases Option.map_eq_some_iff.mp read with ⟨⟨taken, behind⟩, found, same⟩
    cases same
    rw [List.cons_append, exponent?, signedDigits?_append ends found]
    rfl
  · rcases Option.map_eq_some_iff.mp read with ⟨⟨taken, behind⟩, found, same⟩
    cases same
    rw [List.cons_append, exponent?, signedDigits?_append ends found]
    rfl
  · rename_i noLower noUpper
    cases read
    rw [exponent?]
    · exact ends.append_ne_cons noLower rfl
    · exact ends.append_ne_cons noUpper rfl

theorem unsigned?_append {negative : Bool} {json : Json} (ends : EndsNumber rest)
    (read : unsigned? negative text = some (json, left)) :
    unsigned? negative (text ++ rest) = some (json, left ++ rest) := by
  unfold unsigned? at read
  split at read
  · rename_i whole afterWhole foundWhole
    split at read
    · rename_i fraction afterFraction foundFraction
      split at read
      · rename_i exponent afterExponent foundExponent
        cases read
        simp only [unsigned?, wholeDigits?_append ends foundWhole,
          fraction?_append ends foundFraction, exponent?_append ends foundExponent]
      · cases read
    · cases read
  · cases read

/-- A number is read in front of whatever ends it as it is read alone. -/
theorem number?_append {json : Json} (ends : EndsNumber rest)
    (read : number? text = some (json, left)) :
    number? (text ++ rest) = some (json, left ++ rest) := by
  unfold number? at read
  split at read
  · rw [List.cons_append, number?]
    exact unsigned?_append ends read
  · rename_i noMinus
    rw [number?]
    · exact unsigned?_append ends read
    · exact ends.append_ne_cons noMinus rfl

/-- A number begins with a minus or with a digit. -/
theorem head_of_number? {json : Json} (read : number? text = some (json, left)) :
    ∃ c tail, text = c :: tail ∧ (c = '-' ∨ c.isDigit = true) := by
  unfold number? at read
  split at read
  · exact ⟨'-', _, rfl, Or.inl rfl⟩
  · unfold unsigned? at read
    split at read
    · rename_i whole afterWhole found
      unfold wholeDigits? at found
      split at found
      · exact ⟨'0', _, rfl, Or.inr rfl⟩
      · cases text with
        | nil => cases found
        | cons c tail =>
            refine ⟨c, tail, rfl, Or.inr ?_⟩
            by_contra noDigit
            simp [someDigits?, noDigit] at found
    · cases read

/-- A number is the only thing that begins as numbers begin. -/
theorem value?_of_number? {bound depth : Nat} {json : Json}
    (read : number? text = some (json, left)) :
    value? (bound + 1) depth text = some (json, left) := by
  rcases head_of_number? read with ⟨c, tail, rfl, head⟩
  rw [value?]
  · exact read
  all_goals
    intro rest same
    cases same
    revert head
    decide

end Number

/-! ## Integers -/

/-- The digits of a positive number do not begin with a zero. -/
theorem toDigits_ne_zero_cons {n : Nat} (positive : 0 < n) (rest : List Char) :
    Nat.toDigits 10 n ≠ '0' :: rest := by
  induction n using Nat.strongRecOn generalizing rest with
  | ind n inductionHypothesis =>
      rcases Nat.lt_or_ge n 10 with small | large
      · have figures : ∀ n < 10, 0 < n → Nat.digitChar n ≠ '0' := by decide
        rw [Nat.toDigits_of_lt_base small]
        intro same
        exact figures n small positive (List.cons.inj same).1
      · rw [Nat.toDigits_of_base_le (by decide) large]
        intro same
        rcases List.append_eq_cons_iff.mp same with ⟨nothing, -⟩ | ⟨inner, same, -⟩
        · exact Nat.toDigits_ne_nil nothing
        · exact inductionHypothesis (n / 10) (by omega) (by omega) inner same

theorem wholeDigits?_toDigits (n : Nat) :
    wholeDigits? (Nat.toDigits 10 n) = some (Nat.toDigits 10 n, []) := by
  rcases Nat.eq_zero_or_pos n with zero | positive
  · rw [zero]
    rfl
  · have digits : ∀ c ∈ Nat.toDigits 10 n, c.isDigit = true := fun c member =>
      Nat.isDigit_of_mem_toDigits (by decide) (by decide) member
    have taken := List.takeWhile_eq_self_iff.mpr digits
    have dropped := List.dropWhile_eq_nil_iff.mpr digits
    unfold wholeDigits?
    split
    · exact absurd ‹_› (toDigits_ne_zero_cons positive _)
    · simp [someDigits?, taken, dropped]

theorem unsigned?_toDigits (n : Int) :
    unsigned? (decide (n < 0)) (Nat.toDigits 10 n.natAbs) = some (.integer n, []) := by
  rcases Numeral.exists_digits?_toDigits (by decide : 1 < 10) (by decide) n.natAbs with
    ⟨values, read, total⟩
  have noNegativeZero : (decide (n < 0) && Nat.toDigits 10 n.natAbs == ['0']) = false := by
    cases negative : decide (n < 0) with
    | false => rfl
    | true =>
        have below : n < 0 := of_decide_eq_true negative
        have positive : 0 < n.natAbs := by omega
        simpa using toDigits_ne_zero_cons positive []
  simp only [unsigned?, wholeDigits?_toDigits, fraction?, exponent?, ofParts, List.isEmpty_nil,
    noNegativeZero, Bool.not_false, Bool.and_self, if_true, read, Option.getD_some, total,
    Numeral.signed_natAbs]

/-- An integer is read from its decimal numeral. -/
theorem number?_integer (n : Int) : number? (toString n).toList = some (.integer n, []) := by
  have spelled : (toString n).toList =
      Numeral.sign (decide (n < 0)) ++ Nat.toDigits 10 n.natAbs := Numeral.decimal_toList n
  have read := unsigned?_toDigits n
  rw [spelled]
  cases negative : decide (n < 0) with
  | true =>
      rw [negative] at read
      exact read
  | false =>
      rw [negative] at read
      rw [Numeral.sign, if_neg Bool.false_ne_true, List.nil_append, number?]
      · exact read
      · intro rest same
        have minus : '-' ∈ Nat.toDigits 10 n.natAbs := same ▸ List.mem_cons_self
        have digit := Nat.isDigit_of_mem_toDigits (by decide) (by decide) minus
        exact absurd digit (by decide)

/-! ## Strings -/

/-- A control character is read from its four hexadecimal digits. -/
theorem escaped?_control {n : Nat} (control : n < 32) (text : List Char) :
    escaped? ('u' :: '0' :: '0' :: hexDigit (n / 16) :: hexDigit n :: text) =
      some (Char.ofNat n, text) := by
  have unit : ∀ n < 32, codeUnit? '0' '0' (hexDigit (n / 16)) (hexDigit n) = some n := by decide
  have low : n < 0xD800 := by omega
  simp [escaped?, unit n control, escapedUnit?, low]

/-- The escape of a character is read as the character. -/
theorem stringBody?_escape (bound : Nat) (c : Char) (text : List Char) :
    stringBody? (bound + 1) (escape c ++ text) =
      (stringBody? bound text).map fun (body, rest) => (c :: body, rest) := by
  have coded {code : Nat} (here : c.toNat = code) : c = Char.ofNat code := by
    rw [← here, Char.ofNat_toNat]
  unfold escape
  simp only [beq_iff_eq]
  -- five characters have an escape of their own and are named by it, two are named by their code
  iterate 5
    split
    · rename_i here
      rw [here]
      rfl
  iterate 2
    split
    · rename_i here
      rw [coded here]
      rfl
  split
  · rename_i control
    have read := escaped?_control control text
    rw [Char.ofNat_toNat] at read
    simp [stringBody?, read]
  · rename_i noQuote noBackslash _ _ _ _ _ noControl
    simp [stringBody?, noQuote, noBackslash, noControl]

/-- A string is read from what is written for it. -/
theorem stringBody?_flatMap_escape {bound : Nat} (body rest : List Char)
    (enough : body.length < bound) :
    stringBody? bound (body.flatMap escape ++ '"' :: rest) = some (body, rest) := by
  induction body generalizing bound with
  | nil =>
      cases bound with
      | zero => cases enough
      | succ bound => rfl
  | cons c body inductionHypothesis =>
      cases bound with
      | zero => cases enough
      | succ bound =>
          rw [List.flatMap_cons, List.append_assoc, stringBody?_escape,
            inductionHypothesis (Nat.lt_of_succ_lt_succ enough)]
          rfl

theorem length_le_flatMap_escape (body : List Char) :
    body.length ≤ (body.flatMap escape).length := by
  have longer (c : Char) : 1 ≤ (escape c).length := by
    unfold escape
    repeat' split
    all_goals simp
  induction body with
  | nil => exact Nat.le_refl 0
  | cons c body inductionHypothesis =>
      rw [List.flatMap_cons, List.length_append, List.length_cons]
      have one := longer c
      omega

/-- Behind its opening quote a string is read, with at least as many steps as it has
characters. -/
theorem stringBody?_quoted {bound : Nat} (s : String) (rest : List Char)
    (enough : (quoted s).length ≤ bound + 1) :
    ∃ text, quoted s ++ rest = '"' :: text ∧
      stringBody? (bound + 1) text = some (s.toList, rest) := by
  refine ⟨s.toList.flatMap escape ++ '"' :: rest, by simp [quoted], ?_⟩
  apply stringBody?_flatMap_escape
  have longer := length_le_flatMap_escape s.toList
  simp only [quoted, List.length_cons, List.length_append, List.length_nil] at enough
  omega

/-! ## Documents -/

/-- A value that the reader could have kept: its numerals are read as they are written. -/
inductive IsDocument : Json → Prop
  | null : IsDocument .null
  | bool (b : Bool) : IsDocument (.bool b)
  | integer (n : Int) : IsDocument (.integer n)
  | numeral {text : String} (read : number? text.toList = some (.numeral text, [])) :
      IsDocument (.numeral text)
  | string (s : String) : IsDocument (.string s)
  | array {items : List Json} (each : ∀ item ∈ items, IsDocument item) : IsDocument (.array items)
  | object {members : List (String × Json)} (each : ∀ member ∈ members, IsDocument member.2) :
      IsDocument (.object members)

mutual

/-- How deeply arrays and objects are nested. -/
def nesting : Json → Nat
  | .array items => nestingItems items + 1
  | .object members => nestingMembers members + 1
  | _ => 0

/-- The deepest nesting of the items. -/
def nestingItems : List Json → Nat
  | [] => 0
  | item :: items => max item.nesting (nestingItems items)

/-- The deepest nesting of the members. -/
def nestingMembers : List (String × Json) → Nat
  | [] => 0
  | (_, value) :: members => max value.nesting (nestingMembers members)

end

/-- The value is read back in front of whatever ends a number, if its nesting allows. -/
def ReadsBack (json : Json) : Prop :=
  ∀ bound depth rest, json.compact.length ≤ bound → EndsNumber rest →
    value? bound depth (json.compact ++ rest) =
      if json.nesting ≤ depth then some (json, rest) else none

theorem skipBlanks_cons {c : Char} (text : List Char) (mark : isBlank c = false) :
    skipBlanks (c :: text) = c :: text :=
  List.dropWhile_cons_of_neg (by simp [mark])

/-- The text of a document begins with no blank, and not with the bracket that closes an
array. -/
theorem IsDocument.head {json : Json} (document : json.IsDocument) :
    ∃ c tail, json.compact = c :: tail ∧ isBlank c = false ∧ c ≠ ']' := by
  have ofNumber {text : List Char} (read : ∃ json left, number? text = some (json, left)) :
      ∃ c tail, text = c :: tail ∧ isBlank c = false ∧ c ≠ ']' := by
    rcases read with ⟨json, left, read⟩
    rcases head_of_number? read with ⟨c, tail, spelled, first⟩
    refine ⟨c, tail, spelled, ?_, ?_⟩
    · apply Bool.eq_false_iff.mpr
      intro blank
      simp only [isBlank, Bool.or_eq_true, beq_iff_eq] at blank
      rcases blank with ((rfl | rfl) | rfl) | rfl <;> revert first <;> decide
    · rintro rfl
      revert first
      decide
  cases document with
  | null => exact ⟨'n', _, rfl, rfl, by decide⟩
  | bool b => cases b <;> exact ⟨_, _, rfl, rfl, by decide⟩
  | integer n => exact ofNumber ⟨_, _, number?_integer n⟩
  | numeral read => exact ofNumber ⟨_, _, read⟩
  | string s => exact ⟨'"', _, rfl, rfl, by decide⟩
  | array each => exact ⟨'[', _, rfl, rfl, by decide⟩
  | object each => exact ⟨'{', _, rfl, rfl, by decide⟩

theorem readsBack_of_number? {json : Json} (spelled : number? json.compact = some (json, []))
    (flat : json.nesting = 0) : json.ReadsBack := by
  intro bound depth rest enough ends
  rcases head_of_number? spelled with ⟨c, tail, first, -⟩
  cases bound with
  | zero => simp [first] at enough
  | succ bound =>
      rw [value?_of_number? (number?_append ends spelled), flat, if_pos (Nat.zero_le depth)]
      rfl

theorem readsBack_string (s : String) : (Json.string s).ReadsBack := by
  intro bound depth rest enough _
  rw [compact] at enough ⊢
  cases bound with
  | zero => cases enough
  | succ bound =>
      rcases stringBody?_quoted s rest enough with ⟨text, spelled, read⟩
      rw [spelled, value?, read, nesting, if_pos (Nat.zero_le depth)]
      · simp
      all_goals simp

theorem compactItems_cons {item : Json} {items : List Json} (more : items ≠ []) :
    compactItems (item :: items) = item.compact ++ ',' :: compactItems items := by
  cases items with
  | nil => exact absurd rfl more
  | cons next items => rfl

theorem compactMembers_cons {name : String} {value : Json} {members : List (String × Json)}
    (more : members ≠ []) :
    compactMembers ((name, value) :: members) =
      quoted name ++ ':' :: (value.compact ++ ',' :: compactMembers members) := by
  cases members with
  | nil => exact absurd rfl more
  | cons next members => rfl

/-- The text of items begins as the first of them does. -/
theorem compactItems_head {items : List Json} (each : ∀ item ∈ items, item.IsDocument)
    (nonempty : items ≠ []) :
    ∃ c tail, compactItems items = c :: tail ∧ isBlank c = false ∧ c ≠ ']' := by
  cases items with
  | nil => exact absurd rfl nonempty
  | cons item items =>
      rcases (each item List.mem_cons_self).head with ⟨c, tail, spelled, clear, noBracket⟩
      by_cases more : items = []
      · rw [more, compactItems]
        exact ⟨c, tail, spelled, clear, noBracket⟩
      · rw [compactItems_cons more, spelled]
        exact ⟨c, _, rfl, clear, noBracket⟩

/-- If the nesting allows for a first part, then it decides about the parts behind. -/
theorem map_ite_max {α β : Type} {first behind depth : Nat} (allowed : first ≤ depth) (value : α)
    (change : α → β) :
    (if behind ≤ depth then some value else none).map change =
      if max first behind ≤ depth then some (change value) else none := by
  by_cases further : behind ≤ depth
  · rw [if_pos further, if_pos (Nat.max_le.mpr ⟨allowed, further⟩)]
    rfl
  · rw [if_neg further, if_neg fun all => further (Nat.max_le.mp all).2]
    rfl

section Steps

variable {bound depth : Nat} {text rest : List Char} {item : Json}

theorem items?_of_none (refused : value? bound depth text = none) :
    items? (bound + 1) depth text = none := by
  rw [items?, refused]

theorem items?_last (read : value? bound depth text = some (item, ']' :: rest)) :
    items? (bound + 1) depth text = some ([item], rest) := by
  rw [items?, read]
  simp only [skipBlanks_cons rest (rfl : isBlank ']' = false)]

theorem items?_more (read : value? bound depth text = some (item, ',' :: rest)) :
    items? (bound + 1) depth text =
      (items? bound depth (skipBlanks rest)).map fun (items, rest) => (item :: items, rest) := by
  rw [items?, read]
  simp only [skipBlanks_cons rest (rfl : isBlank ',' = false)]

end Steps

/-- Items are read back up to the closing bracket if each of them is. -/
theorem items?_compactItems {items : List Json} (each : ∀ item ∈ items, item.IsDocument)
    (readBack : ∀ item ∈ items, item.ReadsBack) (nonempty : items ≠ []) (bound depth : Nat)
    (rest : List Char) (enough : (compactItems items).length < bound) :
    items? bound depth (compactItems items ++ ']' :: rest) =
      if nestingItems items ≤ depth then some (items, rest) else none := by
  induction items generalizing bound with
  | nil => exact absurd rfl nonempty
  | cons item items inductionHypothesis =>
      rw [List.forall_mem_cons] at each readBack
      cases bound with
      | zero => cases enough
      | succ bound =>
          by_cases more : items = []
          · subst more
            rw [compactItems] at enough ⊢
            rw [nestingItems, nestingItems, Nat.max_zero]
            have first := readBack.1 bound depth (']' :: rest) (by omega)
              (endsNumber_cons rest (by simp))
            by_cases allowed : item.nesting ≤ depth
            · rw [if_pos allowed] at first ⊢
              exact items?_last first
            · rw [if_neg allowed] at first ⊢
              exact items?_of_none first
          · rcases compactItems_head each.2 more with ⟨c, tail, spelled, clear, -⟩
            have skipped : skipBlanks (compactItems items ++ ']' :: rest) =
                compactItems items ++ ']' :: rest := by
              rw [spelled, List.cons_append, skipBlanks_cons _ clear]
            rw [compactItems_cons more] at enough ⊢
            rw [List.length_append, List.length_cons] at enough
            rw [List.append_assoc, List.cons_append, nestingItems]
            have first := readBack.1 bound depth (',' :: (compactItems items ++ ']' :: rest))
              (by omega) (endsNumber_cons _ (by simp))
            by_cases allowed : item.nesting ≤ depth
            · rw [if_pos allowed] at first
              rw [items?_more first, skipped,
                inductionHypothesis each.2 readBack.2 more bound (by omega),
                map_ite_max allowed]
            · -- The first item is too deep, so the items behind it are not looked at.
              rw [if_neg allowed] at first
              rw [items?_of_none first, if_neg fun all => allowed (Nat.max_le.mp all).1]

section Steps

variable {bound depth : Nat} {text rest : List Char} {name : String} {value : Json}

theorem members?_of_none (enough : (quoted name).length ≤ bound + 1)
    (refused : value? bound depth (skipBlanks text) = none) :
    members? (bound + 1) depth (quoted name ++ ':' :: text) = none := by
  rcases stringBody?_quoted name (':' :: text) enough with ⟨inner, spelled, read⟩
  rw [spelled, members?, read]
  simp only [skipBlanks_cons text (rfl : isBlank ':' = false), refused]

theorem members?_last (enough : (quoted name).length ≤ bound + 1)
    (found : value? bound depth (skipBlanks text) = some (value, '}' :: rest)) :
    members? (bound + 1) depth (quoted name ++ ':' :: text) = some ([(name, value)], rest) := by
  rcases stringBody?_quoted name (':' :: text) enough with ⟨inner, spelled, read⟩
  rw [spelled, members?, read]
  simp only [skipBlanks_cons text (rfl : isBlank ':' = false), found,
    skipBlanks_cons rest (rfl : isBlank '}' = false), String.ofList_toList]

theorem members?_more (enough : (quoted name).length ≤ bound + 1)
    (found : value? bound depth (skipBlanks text) = some (value, ',' :: rest)) :
    members? (bound + 1) depth (quoted name ++ ':' :: text) =
      (members? bound depth (skipBlanks rest)).map fun (members, rest) =>
        ((name, value) :: members, rest) := by
  rcases stringBody?_quoted name (':' :: text) enough with ⟨inner, spelled, read⟩
  rw [spelled, members?, read]
  simp only [skipBlanks_cons text (rfl : isBlank ':' = false), found,
    skipBlanks_cons rest (rfl : isBlank ',' = false), String.ofList_toList]

end Steps

/-- The text of members begins with the quote of the first name. -/
theorem compactMembers_head {members : List (String × Json)} (nonempty : members ≠ []) :
    ∃ tail, compactMembers members = '"' :: tail := by
  cases members with
  | nil => exact absurd rfl nonempty
  | cons member members =>
      rcases member with ⟨name, value⟩
      by_cases more : members = []
      · rw [more, compactMembers]
        exact ⟨_, rfl⟩
      · rw [compactMembers_cons more]
        exact ⟨_, rfl⟩

/-- Members are read back up to the closing brace if each value is. -/
theorem members?_compactMembers {members : List (String × Json)}
    (each : ∀ member ∈ members, member.2.IsDocument)
    (readBack : ∀ member ∈ members, member.2.ReadsBack) (nonempty : members ≠ [])
    (bound depth : Nat) (rest : List Char) (enough : (compactMembers members).length < bound) :
    members? bound depth (compactMembers members ++ '}' :: rest) =
      if nestingMembers members ≤ depth then some (members, rest) else none := by
  induction members generalizing bound with
  | nil => exact absurd rfl nonempty
  | cons member members inductionHypothesis =>
      rcases member with ⟨name, value⟩
      rw [List.forall_mem_cons] at each readBack
      have valueReadBack : value.ReadsBack := readBack.1
      rcases each.1.head with ⟨c, tail, spelled, clear, -⟩
      have skipped (behind : List Char) :
          skipBlanks (value.compact ++ behind) = value.compact ++ behind := by
        rw [spelled, List.cons_append, skipBlanks_cons _ clear]
      cases bound with
      | zero => cases enough
      | succ bound =>
          by_cases more : members = []
          · subst more
            rw [compactMembers, List.length_append, List.length_cons] at enough
            rw [compactMembers, List.append_assoc, List.cons_append, nestingMembers, nestingMembers,
              Nat.max_zero]
            have first := valueReadBack bound depth ('}' :: rest) (by omega)
              (endsNumber_cons rest (by simp))
            rw [← skipped] at first
            by_cases allowed : value.nesting ≤ depth
            · rw [if_pos allowed] at first ⊢
              exact members?_last (by omega) first
            · rw [if_neg allowed] at first ⊢
              exact members?_of_none (by omega) first
          · rcases compactMembers_head more with ⟨tail, next⟩
            have skippedNext : skipBlanks (compactMembers members ++ '}' :: rest) =
                compactMembers members ++ '}' :: rest := by
              rw [next, List.cons_append, skipBlanks_cons _ rfl]
            rw [compactMembers_cons more] at enough ⊢
            rw [List.length_append, List.length_cons, List.length_append,
              List.length_cons] at enough
            rw [List.append_assoc, List.cons_append, List.append_assoc, List.cons_append,
              nestingMembers]
            have first := valueReadBack bound depth (',' :: (compactMembers members ++ '}' :: rest))
              (by omega) (endsNumber_cons _ (by simp))
            rw [← skipped] at first
            by_cases allowed : value.nesting ≤ depth
            · rw [if_pos allowed] at first
              rw [members?_more (by omega) first, skippedNext,
                inductionHypothesis each.2 readBack.2 more bound (by omega),
                map_ite_max allowed]
            · rw [if_neg allowed] at first
              rw [members?_of_none (by omega) first,
                if_neg fun all => allowed (Nat.max_le.mp all).1]

/-! ## Whole texts -/

theorem readsBack_array {items : List Json} (each : ∀ item ∈ items, item.IsDocument)
    (readBack : ∀ item ∈ items, item.ReadsBack) : (Json.array items).ReadsBack := by
  intro bound depth rest enough _
  rw [compact, List.length_cons, List.length_append, List.length_singleton] at enough
  rw [compact, List.cons_append, List.append_assoc, List.singleton_append, nesting]
  cases bound with
  | zero => cases enough
  | succ bound =>
      cases depth with
      | zero => simp [value?]
      | succ depth =>
          by_cases nonempty : items = []
          · subst nonempty
            simp [value?, compactItems, nestingItems,
              skipBlanks_cons rest (rfl : isBlank ']' = false)]
          · rcases compactItems_head each nonempty with ⟨c, tail, spelled, clear, noBracket⟩
            -- The items begin with no blank and no bracket, so the array is not taken for empty.
            have inside := items?_compactItems each readBack nonempty bound depth rest (by omega)
            rw [spelled, List.cons_append] at inside ⊢
            rw [value?, if_neg (Nat.succ_ne_zero depth), skipBlanks_cons _ clear]
            split
            · rename_i closed
              exact absurd (List.cons.inj closed).1 noBracket
            · rw [Nat.add_sub_cancel, inside]
              simp only [Nat.add_le_add_iff_right]
              split <;> rfl

theorem readsBack_object {members : List (String × Json)}
    (each : ∀ member ∈ members, member.2.IsDocument)
    (readBack : ∀ member ∈ members, member.2.ReadsBack) : (Json.object members).ReadsBack := by
  intro bound depth rest enough _
  rw [compact, List.length_cons, List.length_append, List.length_singleton] at enough
  rw [compact, List.cons_append, List.append_assoc, List.singleton_append, nesting]
  cases bound with
  | zero => cases enough
  | succ bound =>
      cases depth with
      | zero => simp [value?]
      | succ depth =>
          by_cases nonempty : members = []
          · subst nonempty
            simp [value?, compactMembers, nestingMembers,
              skipBlanks_cons rest (rfl : isBlank '}' = false)]
          · rcases compactMembers_head nonempty with ⟨tail, spelled⟩
            have inside :=
              members?_compactMembers each readBack nonempty bound depth rest (by omega)
            rw [spelled, List.cons_append] at inside ⊢
            rw [value?, if_neg (Nat.succ_ne_zero depth), skipBlanks_cons _ rfl]
            split
            · rename_i closed
              cases closed
            · rw [Nat.add_sub_cancel, inside]
              simp only [Nat.add_le_add_iff_right]
              split <;> rfl

/-- Every document is read back, by induction on its parts. -/
theorem IsDocument.readsBack {json : Json} (document : json.IsDocument) : json.ReadsBack := by
  induction document with
  | null =>
      intro bound depth rest enough _
      cases bound with
      | zero => cases enough
      | succ bound => simp [compact, value?, nesting]
  | bool b =>
      intro bound depth rest enough _
      cases bound with
      | zero => cases b <;> cases enough
      | succ bound => cases b <;> simp [compact, value?, nesting]
  | integer n => exact readsBack_of_number? (number?_integer n) rfl
  | numeral read => exact readsBack_of_number? read rfl
  | string s => exact readsBack_string s
  | array each inductionHypothesis => exact readsBack_array each inductionHypothesis
  | object each inductionHypothesis => exact readsBack_object each inductionHypothesis

/-- The text of a document is read as that document, unless it is nested too deeply for the
reader. -/
theorem IsDocument.ofText?_text {json : Json} (document : json.IsDocument) :
    ofText? json.text = if json.nesting ≤ maxDepth then some json else none := by
  have read := document.readsBack (json.compact.length + 1) maxDepth [] (Nat.le_succ _)
    endsNumber_nil
  rcases document.head with ⟨c, tail, spelled, clear, -⟩
  have skipped : skipBlanks json.compact = json.compact := by
    rw [spelled, skipBlanks_cons _ clear]
  rw [List.append_nil] at read
  simp only [ofText?, text, String.toList_ofList, skipped, read]
  by_cases allowed : json.nesting ≤ maxDepth
  · simp only [if_pos allowed]
    rfl
  · simp only [if_neg allowed]

end Json
end FrameMachine
