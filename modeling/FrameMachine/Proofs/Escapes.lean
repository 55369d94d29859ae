import FrameMachine.Value
import Mathlib.Logic.Function.Iterate

namespace FrameMachine
namespace Text

/-!
# Decoding escapes

Decoding goes over a text once.  It looks up to three characters ahead, and only from a
backslash, so that a text can be cut wherever no backslash stands among the last three
characters in front of the cut, and each part is decoded on its own.  Every pass leaves less
of the text, and the passes write what decoding makes of the whole.  A backslash is the one
character that does not stand for itself, and it has an escape: so every text is what some
stored string stands for.
-/

/-! ## One character or one escape -/

/-- The character denoted by the next three characters, if they are the digits of an escape. -/
def escape? : List Char → Option Char
  | hundreds :: tens :: ones :: _ => escapedChar? hundreds tens ones
  | _ => none

/-- Only the next three characters matter. -/
theorem escape?_append {front : List Char} (enough : 3 ≤ front.length) (back : List Char) :
    escape? (front ++ back) = escape? front := by
  rcases front with - | ⟨hundreds, - | ⟨tens, - | ⟨ones, rest⟩⟩⟩
  · cases enough
  · simp at enough
  · simp at enough
  · rfl

theorem decodeRun_cons {c : Char} (plain : c ≠ '\\') (rest : List Char) :
    decodeRun (c :: rest) = c :: decodeRun rest := by
  rw [decodeRun]
  · exact fun _ _ _ _ same => absurd same plain
  · exact fun same => absurd same plain

/-- A backslash is decoded with the digits of an escape after it. -/
theorem decodeRun_of_escape {rest : List Char} {c : Char} (escaped : escape? rest = some c) :
    decodeRun ('\\' :: rest) = c :: decodeRun (rest.drop 3) := by
  rcases rest with - | ⟨hundreds, - | ⟨tens, - | ⟨ones, rest⟩⟩⟩
  · cases escaped
  · cases escaped
  · cases escaped
  · rw [escape?] at escaped
    rw [decodeRun, escaped]
    rfl

/-- A backslash without an escape after it is dropped. -/
theorem decodeRun_of_no_escape {rest : List Char} (refused : escape? rest = none) :
    decodeRun ('\\' :: rest) = decodeRun rest := by
  rcases rest with - | ⟨hundreds, - | ⟨tens, - | ⟨ones, rest⟩⟩⟩
  · rfl
  · rfl
  · rfl
  · rw [escape?] at refused
    rw [decodeRun, refused]

/-- A text without a backslash is decoded to itself. -/
theorem decodeRun_eq_self {text : List Char} (clear : '\\' ∉ text) : decodeRun text = text := by
  induction text with
  | nil => rfl
  | cons c rest inductionHypothesis =>
      rw [List.mem_cons, not_or] at clear
      rw [decodeRun_cons (Ne.symm clear.1), inductionHypothesis clear.2]

/-- Leaving a text as it is when it has no backslash makes no difference. -/
theorem decodeEscapes_eq_decodeRun (text : List Char) : decodeEscapes text = decodeRun text := by
  by_cases clear : '\\' ∈ text
  · rw [decodeEscapes, if_pos (List.contains_iff_mem.mpr clear)]
  · rw [decodeEscapes, if_neg (mt List.contains_iff_mem.mp clear), decodeRun_eq_self clear]

/-! ## Passes -/

/-- One pass of decoding, from what is left and what has been written to the next two. -/
def decodePass : List Char × List Char → List Char × List Char
  | ([], written) => ([], written)
  | (c :: rest, written) =>
      if c ≠ '\\' then (rest, written ++ [c])
      else
        match escape? rest with
        | some decoded => (rest.drop 3, written ++ [decoded])
        | none => (rest, written)

/-- A pass takes at least one character off the front, and what it writes is what decoding
makes of the characters that it takes. -/
theorem decodePass_spec (c : Char) (rest written : List Char) :
    ∃ left more, decodePass (c :: rest, written) = (left, written ++ more) ∧
      left.length ≤ rest.length ∧ decodeRun (c :: rest) = more ++ decodeRun left := by
  by_cases plain : c = '\\'
  · subst plain
    cases found : escape? rest with
    | some decoded =>
        refine ⟨rest.drop 3, [decoded], ?_, ?_, decodeRun_of_escape found⟩
        · simp [decodePass, found]
        · rw [List.length_drop]
          exact Nat.sub_le _ _
    | none =>
        refine ⟨rest, [], ?_, Nat.le_refl _, decodeRun_of_no_escape found⟩
        simp [decodePass, found]
  · refine ⟨rest, [c], ?_, Nat.le_refl _, decodeRun_cons plain rest⟩
    simp [decodePass, plain]

/-- Decoding ends: as many passes as the text has characters leave nothing of it. -/
theorem iterate_decodePass {text : List Char} {passes : Nat} (enough : text.length ≤ passes)
    (written : List Char) :
    decodePass^[passes] (text, written) = ([], written ++ decodeRun text) := by
  induction passes generalizing text written with
  | zero =>
      rw [List.length_eq_zero_iff.mp (Nat.le_zero.mp enough), decodeRun, List.append_nil]
      rfl
  | succ passes inductionHypothesis =>
      rw [Function.iterate_succ_apply]
      cases text with
      | nil => exact inductionHypothesis (Nat.zero_le _) written
      | cons c rest =>
          rcases decodePass_spec c rest written with ⟨left, more, passed, shorter, decoded⟩
          have fewer : left.length ≤ passes := Nat.le_trans shorter (Nat.le_of_succ_le_succ enough)
          rw [passed, inductionHypothesis fewer, decoded, List.append_assoc]

/-! ## Cutting a text -/

/-- Whether no backslash is among the last three characters. -/
def EndsClear (text : List Char) : Prop :=
  '\\' ∉ text.drop (text.length - 3)

instance (text : List Char) : Decidable (EndsClear text) :=
  inferInstanceAs (Decidable (_ ∉ _))

/-- The last characters of a part at the end are among the last ones of the whole. -/
theorem endsClear_of_append (front : List Char) {back : List Char}
    (clear : EndsClear (front ++ back)) : EndsClear back := by
  intro member
  apply clear
  have place : (front ++ back).length - 3 - front.length = back.length - 3 := by
    rw [List.length_append]
    omega
  rw [List.drop_append, place]
  exact List.mem_append_right _ member

/-- Three characters follow a backslash in a text that ends clear. -/
theorem EndsClear.three_le {rest : List Char} (clear : EndsClear ('\\' :: rest)) :
    3 ≤ rest.length := by
  by_contra short
  have place : ('\\' :: rest).length - 3 = 0 := by
    rw [List.length_cons]
    omega
  apply clear
  rw [place]
  exact List.mem_cons_self

/-- The parts of a text are decoded on their own where no escape can reach over the cut.  The
induction is on the length of the first part, since an escape takes four characters at once. -/
theorem decodeRun_append {front : List Char} (clear : EndsClear front) (back : List Char) :
    decodeRun (front ++ back) = decodeRun front ++ decodeRun back := by
  induction length : front.length using Nat.strongRecOn generalizing front with
  | ind size inductionHypothesis =>
      cases front with
      | nil => rfl
      | cons c rest =>
          rw [List.length_cons] at length
          have clearRest : EndsClear rest := endsClear_of_append [c] clear
          have onRest := inductionHypothesis rest.length (by omega) clearRest rfl
          by_cases marked : c = '\\'
          · subst marked
            have enough : 3 ≤ rest.length := clear.three_le
            have ahead := escape?_append enough back
            cases found : escape? rest with
            | none =>
                rw [List.cons_append, decodeRun_of_no_escape (ahead.trans found), onRest,
                  decodeRun_of_no_escape found]
            | some decoded =>
                have clearLeft : EndsClear (rest.drop 3) :=
                  endsClear_of_append (rest.take 3) (by rwa [List.take_append_drop])
                have shorter : (rest.drop 3).length < size := by
                  rw [List.length_drop]
                  omega
                rw [List.cons_append, decodeRun_of_escape (ahead.trans found),
                  List.drop_append_of_le_length enough,
                  inductionHypothesis _ shorter clearLeft rfl, decodeRun_of_escape found,
                  List.cons_append]
          · rw [List.cons_append, decodeRun_cons marked, onRest, decodeRun_cons marked,
              List.cons_append]

/-! ## Writing any text -/

/-- The text that is stored for a character: itself, or the escape of a backslash. -/
def storedChar (c : Char) : List Char :=
  if c = '\\' then ['\\', '0', '9', '2'] else [c]

/-- The text with an escape in the place of each backslash. -/
def stored (text : List Char) : List Char :=
  text.flatMap storedChar

theorem decodeRun_stored (text : List Char) : decodeRun (stored text) = text := by
  induction text with
  | nil => rfl
  | cons c rest inductionHypothesis =>
      rw [stored, List.flatMap_cons]
      by_cases marked : c = '\\'
      · have escaped : escape? (['0', '9', '2'] ++ stored rest) = some '\\' := rfl
        rw [marked, storedChar, if_pos rfl, List.cons_append]
        rw [stored] at escaped inductionHypothesis
        rw [decodeRun_of_escape escaped]
        exact congrArg ('\\' :: ·) inductionHypothesis
      · rw [storedChar, if_neg marked, List.singleton_append, decodeRun_cons marked]
        exact congrArg (c :: ·) inductionHypothesis

/-- Escapes are decoded in as many passes as the text has characters at most, and a text without
a backslash need not be gone over at all.  Where no backslash is among the last three characters
in front of a cut, the two parts are decoded on their own.  A text with an escape for each
backslash is decoded to the text itself, so every string is the output of some stored one. -/
theorem decodeEscapes_decodes :
    (∀ text passes, text.length ≤ passes →
      decodePass^[passes] (text, []) = ([], decodeEscapes text)) ∧
    (∀ text, '\\' ∉ text → decodeEscapes text = decodeRun text ∧ decodeRun text = text) ∧
    (∀ front back, EndsClear front →
      decodeEscapes (front ++ back) = decodeEscapes front ++ decodeEscapes back) ∧
    (∀ text, decodeEscapes (stored text) = text) ∧
    ∀ s : String, ∃ t : String, (Value.string t).output = s := by
  refine ⟨?_, ?_, ?_, ?_, ?_⟩
  · intro text passes enough
    rw [iterate_decodePass enough, decodeEscapes_eq_decodeRun, List.nil_append]
  · intro text clear
    exact ⟨decodeEscapes_eq_decodeRun text, decodeRun_eq_self clear⟩
  · intro front back clear
    rw [decodeEscapes_eq_decodeRun, decodeEscapes_eq_decodeRun, decodeEscapes_eq_decodeRun]
    exact decodeRun_append clear back
  · intro text
    rw [decodeEscapes_eq_decodeRun, decodeRun_stored]
  · intro s
    refine ⟨String.ofList (stored s.toList), ?_⟩
    rw [Value.output, String.toList_ofList, decodeEscapes_eq_decodeRun, decodeRun_stored,
      String.ofList_toList]

/-- A plain text, a cut right behind an escape and in front of a backslash, and a stored text
that needs an escape. -/
theorem decodeEscapes_decodes_adjacent :
    decodePass^[4] ("\\065".toList, []) = ([], ['A']) ∧
    decodeRun "plain".toList = "plain".toList ∧
    EndsClear "\\065".toList ∧ decodeEscapes "\\065\\0".toList = ['A', '0'] ∧
    stored "x\\y".toList = "x\\092y".toList ∧
    decodeEscapes "x\\092y".toList = "x\\y".toList := by
  rcases decodeEscapes_decodes with ⟨ends, plain, parts, returns, -⟩
  have clear : EndsClear "\\065".toList := by decide +kernel
  refine ⟨ends "\\065".toList 4 (by decide), (plain "plain".toList (by decide)).2, clear, ?_, ?_, ?_⟩
  · exact parts "\\065".toList "\\0".toList clear
  · decide
  · exact returns "x\\y".toList

end Text
end FrameMachine
