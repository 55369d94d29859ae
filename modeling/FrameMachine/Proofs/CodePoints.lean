import FrameMachine.Proofs.IntegerArithmetic

namespace FrameMachine

/-!
# Strings as sequences of code points

Five operations look into strings: one counts, two pick a character, one replaces a character
and one joins two strings.  They agree on what a position is.  `characterAt?` is the sequence
of code points as a partial function of the index, every operation is described by what it does
to that function, and the laws between the operations are then those of sequences.

The length that a program sees is an integer of 64 bits, and so is every index.  A string with
more code points than that has no length that a program could see.  No memory holds one, since
an address has no more bits, so this is a condition of those laws that mention a length and of
no others.
-/

open Numeral

/-! ## Outcomes -/

/-- Whether an outcome is a value exactly on a condition, and otherwise refuses a string. -/
structure GivenIff (outcome : Except Error Value) (condition : Prop) : Prop where
  given : (∃ value, outcome = .ok value) ↔ condition
  refused : ¬condition → ∃ error, outcome = .error error ∧ error.kind = .stringIndexBad

theorem givenIff_of_ok {outcome : Except Error Value} {condition : Prop} {value : Value}
    (ended : outcome = .ok value) (holds : condition) : GivenIff outcome condition :=
  ⟨iff_of_true ⟨value, ended⟩ holds, fun fails => absurd holds fails⟩

theorem givenIff_of_text {outcome : Except Error Value} {condition : Prop} (bad : BadText)
    (ended : outcome = .error (.text bad)) (fails : ¬condition) : GivenIff outcome condition := by
  refine ⟨iff_of_false ?_ fails, fun _ => ⟨.text bad, ended, rfl⟩⟩
  rintro ⟨value, given⟩
  cases ended.symm.trans given

/-- Whether two outcomes are the same but for the texts of their errors. -/
def Alike {α : Type} (first second : Except Error α) : Prop :=
  first.mapError Error.kind = second.mapError Error.kind

theorem Alike.map {α β : Type} {first second : Except Error α} (alike : Alike first second)
    (change : α → β) : Alike (first.map change) (second.map change) := by
  have commutes (outcome : Except Error α) :
      (outcome.map change).mapError Error.kind = (outcome.mapError Error.kind).map change := by
    cases outcome <;> rfl
  rw [Alike] at alike
  rw [Alike, commutes, commutes, alike]

/-! ## Positions -/

section Positions

variable {text behind : List Char} {index other : Int64}

/-- The character at the position that an index denotes. -/
def characterAt? (text : List Char) (index : Int64) : Option Char :=
  if 0 ≤ index.toInt then text[index.toInt.toNat]? else none

/-- Whether an index denotes a position in a string of the given length. -/
def IsWithin (length : Nat) (index : Int64) : Prop :=
  0 ≤ index.toInt ∧ index.toInt < length

theorem isWithin_iff_exists :
    IsWithin text.length index ↔ ∃ c, characterAt? text index = some c := by
  rw [IsWithin, characterAt?]
  split
  · rename_i nonnegative
    rw [← Option.ne_none_iff_exists', ne_eq, List.getElem?_eq_none_iff]
    omega
  · rename_i negative
    simp only [reduceCtorEq, exists_false, iff_false]
    exact fun within => negative within.1

theorem charIndex_eq_ok_iff {length position : Nat} :
    charIndex length index = .ok position ↔ index.toInt = position ∧ position < length := by
  unfold charIndex
  split
  · rw [Except.ok.injEq]
    omega
  · simp only [reduceCtorEq, false_iff]
    omega

theorem charIndex_of_not_within {length : Nat} (outside : ¬IsWithin length index) :
    charIndex length index = .error (.text (.index index length)) :=
  if_neg outside

/-- A character is picked where there is one.  The look-up behind the check never fails. -/
theorem charAt_eq (text : List Char) (index : Int64) :
    charAt text index =
      match characterAt? text index with
      | some c => .ok c
      | none => .error (.text (.index index text.length)) := by
  by_cases within : IsWithin text.length index
  · have checked : charIndex text.length index = .ok index.toInt.toNat := if_pos within
    rcases isWithin_iff_exists.mp within with ⟨c, found⟩
    have present : text[index.toInt.toNat]? = some c := by
      rwa [characterAt?, if_pos within.1] at found
    rw [charAt, checked, found]
    simp only [present]
  · rw [charAt, charIndex_of_not_within within]
    rw [isWithin_iff_exists, ← Option.isSome_iff_exists, Option.not_isSome_iff_eq_none] at within
    rw [within]

theorem alike_charAt (same : characterAt? text index = characterAt? behind other) :
    Alike (charAt text index) (charAt behind other) := by
  rw [charAt_eq, charAt_eq, same]
  cases characterAt? behind other <;> rfl

theorem givenIff_charAt (text : List Char) (index : Int64) (change : Char → Value) :
    GivenIff ((charAt text index).map change) (IsWithin text.length index) := by
  rw [charAt_eq, isWithin_iff_exists]
  cases found : characterAt? text index with
  | some c => exact givenIff_of_ok rfl ⟨c, rfl⟩
  | none => exact givenIff_of_text _ rfl (by rintro ⟨c, same⟩; cases same)

/-- Replacing a character changes the sequence there and nowhere else. -/
theorem characterAt?_set (within : IsWithin text.length index) (c : Char) (other : Int64) :
    characterAt? (text.set index.toInt.toNat c) other =
      if other = index then some c else characterAt? text other := by
  rcases within with ⟨nonnegative, below⟩
  by_cases same : other = index
  · rw [if_pos same, same, characterAt?, if_pos nonnegative, List.getElem?_set_self (by omega)]
  · have elsewhere : other.toInt ≠ index.toInt := fun equal => same (Int64.toInt_inj.mp equal)
    rw [if_neg same, characterAt?, characterAt?]
    split
    · rw [List.getElem?_set_ne (by omega)]
    · rfl

theorem characterAt?_append_left (before : index.toInt < text.length) :
    characterAt? (text ++ behind) index = characterAt? text index := by
  rw [characterAt?, characterAt?]
  split
  · rw [List.getElem?_append_left (by omega)]
  · rfl

theorem characterAt?_append_right (beyond : text.length ≤ index.toInt)
    (shifted : other.toInt = index.toInt - text.length) :
    characterAt? (text ++ behind) index = characterAt? behind other := by
  have moved : index.toInt.toNat - text.length = other.toInt.toNat := by omega
  rw [characterAt?, characterAt?, if_pos (by omega), if_pos (by omega),
    List.getElem?_append_right (by omega), moved]

end Positions

/-! ## Codes -/

/-- Whether an integer is a code point that is a character: one of the first 17 planes that is
not a surrogate. -/
def IsScalar (code : ℤ) : Prop :=
  0 ≤ code ∧ code ≤ 0xD7FF ∨ 0xE000 ≤ code ∧ code ≤ 0x10FFFF

theorem isScalar_toNat (c : Char) : IsScalar c.toNat := by
  have valid := c.valid
  rw [UInt32.isValidChar, Nat.isValidChar] at valid
  rw [IsScalar, Char.toNat]
  omega

theorem toInt_ofNat_toNat (c : Char) : (Int64.ofNat c.toNat).toInt = c.toNat := by
  have scalar := isScalar_toNat c
  rw [IsScalar] at scalar
  exact Int64.toInt_ofNat_of_lt (by omega)

namespace UnaryOperation

theorem charOfCode?_eq_some_iff {code : Int64} {c : Char} :
    charOfCode? code = some c ↔ code.toInt = c.toNat := by
  unfold charOfCode?
  split
  · rename_i valid
    have denoted : (Char.ofNat code.toInt.toNat).toNat = code.toInt.toNat := by
      rw [Char.ofNat, dif_pos valid.2]
      rfl
    rw [Option.some.injEq]
    constructor
    · rintro rfl
      omega
    · intro same
      rw [same, Int.toNat_natCast, Char.ofNat_toNat]
  · rename_i invalid
    simp only [reduceCtorEq, false_iff]
    intro same
    have scalar := isScalar_toNat c
    rw [← same, IsScalar] at scalar
    rw [Nat.isValidChar] at invalid
    omega

theorem charOfCode?_eq_none_iff {code : Int64} :
    charOfCode? code = none ↔ ¬IsScalar code.toInt := by
  unfold charOfCode? IsScalar Nat.isValidChar
  split
  · simp only [reduceCtorEq, false_iff, not_not]
    omega
  · simp only [true_iff]
    omega

/-- A character is made of a code that is one. -/
theorem givenIff_int2char (code : Int64) :
    GivenIff (apply .int2char (.int code)) (IsScalar code.toInt) := by
  cases found : charOfCode? code with
  | none =>
      refine givenIff_of_text (.codePoint code) ?_ (charOfCode?_eq_none_iff.mp found)
      simp only [apply, found]
  | some c =>
      have made : apply .int2char (.int code) = .ok (.string (String.ofList [c])) := by
        simp only [apply, found]
      apply givenIff_of_ok made
      rw [charOfCode?_eq_some_iff.mp found]
      exact isScalar_toNat c

end UnaryOperation

/-! ## Operations -/

section Operations

variable {s t u : String} {i : Int64} {result : Value}

theorem getChar_eq (s : String) (i : Int64) :
    BinaryOperation.apply .getChar (.string s) (.int i) =
      (charAt s.toList i).map fun c => .string (String.ofList [c]) := by
  simp only [BinaryOperation.apply]
  cases charAt s.toList i <;> rfl

theorem stri2int_eq (s : String) (i : Int64) :
    BinaryOperation.apply .stri2int (.string s) (.int i) =
      (charAt s.toList i).map fun c => .int (Int64.ofNat c.toNat) := by
  simp only [BinaryOperation.apply]
  cases charAt s.toList i <;> rfl

theorem replaceChar_of_within {c : Char} {rest : List Char} (spelled : u.toList = c :: rest)
    (within : IsWithin s.toList.length i) :
    replaceChar (.string s) (.int i) (.string u) =
      .ok (.string (String.ofList (s.toList.set i.toInt.toNat c))) := by
  have checked : charIndex s.toList.length i = .ok i.toInt.toNat := if_pos within
  simp only [replaceChar, spelled, checked]

/-- A character is replaced where there is one, by one that there is. -/
theorem givenIff_replaceChar (s u : String) (i : Int64) :
    GivenIff (replaceChar (.string s) (.int i) (.string u))
      (u ≠ "" ∧ IsWithin s.toList.length i) := by
  cases spelled : u.toList with
  | nil =>
      refine givenIff_of_text .emptyReplacement ?_ fun holds => ?_
      · simp only [replaceChar, spelled]
      · exact holds.1 (String.toList_eq_nil_iff.mp spelled)
  | cons c rest =>
      have nonempty : u ≠ "" := by
        rintro rfl
        cases spelled
      by_cases within : IsWithin s.toList.length i
      · exact givenIff_of_ok (replaceChar_of_within spelled within) ⟨nonempty, within⟩
      · refine givenIff_of_text (.index i s.toList.length) ?_ fun holds => within holds.2
        simp only [replaceChar, spelled, charIndex_of_not_within within]

theorem exists_of_replaceChar
    (replaced : replaceChar (.string s) (.int i) (.string u) = .ok result) :
    ∃ c rest, u.toList = c :: rest ∧ IsWithin s.toList.length i ∧
      result = .string (String.ofList (s.toList.set i.toInt.toNat c)) := by
  rcases (givenIff_replaceChar s u i).given.mp ⟨result, replaced⟩ with ⟨nonempty, within⟩
  rcases List.exists_cons_of_ne_nil (mt String.toList_eq_nil_iff.mp nonempty) with
    ⟨c, rest, spelled⟩
  rw [replaceChar_of_within spelled within] at replaced
  exact ⟨c, rest, spelled, within, (Except.ok.inj replaced).symm⟩

/-- The replaced string has the new character at its position and the old ones elsewhere. -/
theorem charAt_of_replaceChar
    (replaced : replaceChar (.string s) (.int i) (.string u) = .ok result) :
    ∃ changed : String, result = .string changed ∧
      changed.toList.length = s.toList.length ∧
      charAt changed.toList i = charAt u.toList 0 ∧
      ∀ j, j ≠ i → charAt changed.toList j = charAt s.toList j := by
  rcases exists_of_replaceChar replaced with ⟨c, rest, spelled, within, rfl⟩
  refine ⟨_, rfl, ?_, ?_, fun j elsewhere => ?_⟩
  · rw [String.toList_ofList, List.length_set]
  · rw [String.toList_ofList, charAt_eq, charAt_eq, characterAt?_set within, if_pos rfl, spelled]
    rfl
  · rw [String.toList_ofList, charAt_eq, charAt_eq, characterAt?_set within, if_neg elsewhere,
      List.length_set]

/-- The length that a program sees is the number of code points. -/
theorem toInt_length (countable : FitsWord s.toList.length) :
    (Int64.ofNat s.toList.length).toInt = s.toList.length := by
  rw [FitsWord] at countable
  exact Int64.toInt_ofNat_of_lt (by omega)

theorem isWithin_iff (countable : FitsWord s.toList.length) :
    IsWithin s.toList.length i ↔ 0 ≤ i ∧ i < Int64.ofNat s.toList.length := by
  rw [Int64.le_iff_toInt_le, Int64.lt_iff_toInt_lt, toInt_length countable, Int64.toInt_zero]
  exact Iff.rfl

/-- Both parts of a string that can be counted can be counted themselves. -/
theorem fitsWord_of_append (countable : FitsWord (s ++ t).toList.length) :
    FitsWord s.toList.length ∧ FitsWord t.toList.length := by
  rw [String.toList_append, List.length_append] at countable
  simp only [FitsWord] at countable ⊢
  omega

theorem length_append_eq (s t : String) :
    Int64.ofNat (s ++ t).toList.length =
      Int64.ofNat s.toList.length + Int64.ofNat t.toList.length := by
  rw [String.toList_append, List.length_append, Int64.ofNat_add]

theorem toInt_length_append (countable : FitsWord (s ++ t).toList.length) :
    (Int64.ofNat s.toList.length + Int64.ofNat t.toList.length).toInt =
      (Int64.ofNat s.toList.length).toInt + (Int64.ofNat t.toList.length).toInt := by
  rcases fitsWord_of_append countable with ⟨first, second⟩
  rw [← length_append_eq, toInt_length countable, toInt_length first, toInt_length second,
    String.toList_append, List.length_append, Nat.cast_add]

/-- A joined string has the characters of both, one behind the other. -/
theorem alike_charAt_append (countable : FitsWord (s ++ t).toList.length) (j : Int64) :
    (j < Int64.ofNat s.toList.length → Alike (charAt (s ++ t).toList j) (charAt s.toList j)) ∧
    (Int64.ofNat s.toList.length ≤ j →
      Alike (charAt (s ++ t).toList j) (charAt t.toList (j - Int64.ofNat s.toList.length))) := by
  have length := toInt_length (fitsWord_of_append countable).1
  rw [String.toList_append, Int64.lt_iff_toInt_lt, Int64.le_iff_toInt_le, length]
  refine ⟨fun before => alike_charAt (characterAt?_append_left before), fun beyond => ?_⟩
  apply alike_charAt
  apply characterAt?_append_right beyond
  rw [BinaryOperation.toInt_sub_of_fits, length]
  have top := fitsWord_toInt j
  rw [FitsWord] at top ⊢
  omega

/-- The character with the code at a position is the one at that position. -/
theorem int2char_stri2int (s : String) (i : Int64) :
    (BinaryOperation.apply .stri2int (.string s) (.int i) >>= UnaryOperation.apply .int2char) =
      BinaryOperation.apply .getChar (.string s) (.int i) := by
  rw [stri2int_eq, getChar_eq]
  cases charAt s.toList i with
  | error error => rfl
  | ok c =>
      have found : UnaryOperation.charOfCode? (Int64.ofNat c.toNat) = some c :=
        UnaryOperation.charOfCode?_eq_some_iff.mpr (toInt_ofNat_toNat c)
      change UnaryOperation.apply .int2char (.int (Int64.ofNat c.toNat)) = _
      simp only [UnaryOperation.apply, found]
      rfl

/-- The code of a character that was made of a code is that code. -/
theorem stri2int_int2char (made : UnaryOperation.apply .int2char (.int i) = .ok result) :
    BinaryOperation.apply .stri2int result (.int 0) = .ok (.int i) := by
  cases found : UnaryOperation.charOfCode? i with
  | none => simp [UnaryOperation.apply, found] at made
  | some c =>
      simp only [UnaryOperation.apply, found, Except.ok.injEq] at made
      have code : Int64.ofNat c.toNat = i := by
        rw [← Int64.toInt_inj, toInt_ofNat_toNat, UnaryOperation.charOfCode?_eq_some_iff.mp found]
      rw [← made, stri2int_eq, String.toList_ofList, ← code]
      rfl

end Operations

/-- The operations on strings see sequences of code points.  Picking a character, its code or
replacing it succeeds exactly at the positions below the length, provided that there is a
replacement, and the string is refused everywhere else.  A position that passed the check is
one of the string, so nothing behind the check can fail.

Replacing puts the first character of the other string at the position, leaves all others and
keeps the length.  A joined string has the sum of the lengths and the characters of both, one
behind the other.  Code and character determine each other, and exactly the scalar values are
codes. -/
theorem strings_are_code_point_sequences (s t u : String) (i : Int64) :
    GivenIff (BinaryOperation.apply .getChar (.string s) (.int i)) (IsWithin s.toList.length i) ∧
    GivenIff (BinaryOperation.apply .stri2int (.string s) (.int i)) (IsWithin s.toList.length i) ∧
    GivenIff (replaceChar (.string s) (.int i) (.string u))
      (u ≠ "" ∧ IsWithin s.toList.length i) ∧
    (FitsWord s.toList.length → ∃ n : Int64,
      UnaryOperation.apply .strlen (.string s) = .ok (.int n) ∧ n.toInt = s.toList.length ∧
      (IsWithin s.toList.length i ↔ 0 ≤ i ∧ i < n)) ∧
    (∀ position, charIndex s.toList.length i = .ok position →
      position < s.toList.length ∧ ∃ c, s.toList[position]? = some c) ∧
    (∀ result, replaceChar (.string s) (.int i) (.string u) = .ok result →
      BinaryOperation.apply .getChar result (.int i) =
        BinaryOperation.apply .getChar (.string u) (.int 0) ∧
      (∀ j, j ≠ i → BinaryOperation.apply .getChar result (.int j) =
        BinaryOperation.apply .getChar (.string s) (.int j)) ∧
      UnaryOperation.apply .strlen result = UnaryOperation.apply .strlen (.string s)) ∧
    (FitsWord (s ++ t).toList.length → ∃ (joined : Value) (m n : Int64),
      BinaryOperation.apply .concat (.string s) (.string t) = .ok joined ∧
      UnaryOperation.apply .strlen (.string s) = .ok (.int m) ∧
      UnaryOperation.apply .strlen (.string t) = .ok (.int n) ∧
      UnaryOperation.apply .strlen joined = .ok (.int (m + n)) ∧
      (m + n).toInt = m.toInt + n.toInt ∧
      (∀ j, j < m → Alike (BinaryOperation.apply .getChar joined (.int j))
        (BinaryOperation.apply .getChar (.string s) (.int j))) ∧
      (∀ j, m ≤ j → Alike (BinaryOperation.apply .getChar joined (.int j))
        (BinaryOperation.apply .getChar (.string t) (.int (j - m))))) ∧
    (BinaryOperation.apply .stri2int (.string s) (.int i) >>= UnaryOperation.apply .int2char) =
      BinaryOperation.apply .getChar (.string s) (.int i) ∧
    GivenIff (UnaryOperation.apply .int2char (.int i)) (IsScalar i.toInt) ∧
    (∀ result, UnaryOperation.apply .int2char (.int i) = .ok result →
      BinaryOperation.apply .stri2int result (.int 0) = .ok (.int i)) := by
  refine ⟨?_, ?_, givenIff_replaceChar s u i, fun countable => ?_, fun position checked => ?_,
    fun result replaced => ?_, fun countable => ?_, int2char_stri2int s i,
    UnaryOperation.givenIff_int2char i, fun result made => stri2int_int2char made⟩
  · rw [getChar_eq]
    exact givenIff_charAt ..
  · rw [stri2int_eq]
    exact givenIff_charAt ..
  · exact ⟨Int64.ofNat s.toList.length, rfl, toInt_length countable, isWithin_iff countable⟩
  · rcases charIndex_eq_ok_iff.mp checked with ⟨-, within⟩
    exact ⟨within, s.toList.get ⟨position, within⟩, List.getElem?_eq_getElem within⟩
  · rcases charAt_of_replaceChar replaced with ⟨changed, rfl, length, here, elsewhere⟩
    refine ⟨?_, fun j other => ?_, ?_⟩
    · rw [getChar_eq, getChar_eq, here]
    · rw [getChar_eq, getChar_eq, elsewhere j other]
    · rw [UnaryOperation.apply, UnaryOperation.apply, length]
  · refine ⟨.string (s ++ t), Int64.ofNat s.toList.length, Int64.ofNat t.toList.length, rfl, rfl,
      rfl, ?_, toInt_length_append countable, fun j before => ?_, fun j beyond => ?_⟩
    · rw [UnaryOperation.apply, length_append_eq]
    · rw [getChar_eq, getChar_eq]
      exact ((alike_charAt_append countable j).1 before).map _
    · rw [getChar_eq, getChar_eq]
      exact ((alike_charAt_append countable j).2 beyond).map _

/-- Characters with encodings of one to four bytes: the last one of a string is replaced, and
another string is joined to it. -/
theorem strings_are_code_point_sequences_mixed :
    FitsWord ("žlu𐍈" ++ "日本" : String).toList.length ∧
    replaceChar (.string "žlu𐍈") (.int 3) (.string "ťx") = .ok (.string "žluť") ∧
    BinaryOperation.apply .getChar (.string "žluť") (.int 3) =
      BinaryOperation.apply .getChar (.string "ťx") (.int 0) ∧
    GivenIff (BinaryOperation.apply .getChar (.string "žlu𐍈") (.int 3)) (IsWithin 4 3) ∧
    (∃ n : Int64, UnaryOperation.apply .strlen (.string "žlu𐍈") = .ok (.int n) ∧
      n.toInt = 4) ∧
    ∃ (joined : Value) (m : Int64),
      BinaryOperation.apply .concat (.string "žlu𐍈") (.string "日本") = .ok joined ∧
      UnaryOperation.apply .strlen (.string "žlu𐍈") = .ok (.int m) ∧
      ∀ j, m ≤ j → Alike (BinaryOperation.apply .getChar joined (.int j))
        (BinaryOperation.apply .getChar (.string "日本") (.int (j - m))) := by
  rcases strings_are_code_point_sequences "žlu𐍈" "日本" "ťx" 3 with
    ⟨picked, -, -, counting, -, replacing, joining, -, -, -⟩
  have countable : FitsWord ("žlu𐍈" ++ "日本" : String).toList.length :=
    fitsWord_iff.mpr (by decide)
  have replaced : replaceChar (.string "žlu𐍈") (.int 3) (.string "ťx") =
      .ok (.string "žluť") := by
    decide
  rcases counting (fitsWord_of_append countable).1 with ⟨n, counted, length, -⟩
  rcases joining countable with ⟨joined, m, -, concatenated, first, -, -, -, -, beyond⟩
  exact ⟨countable, replaced, (replacing _ replaced).1, picked, ⟨n, counted, length⟩, joined, m,
    concatenated, first, beyond⟩

end FrameMachine
