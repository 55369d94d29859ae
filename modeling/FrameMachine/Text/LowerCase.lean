import FrameMachine.Text.CaseTable

namespace FrameMachine
namespace Text

/-!
# Lower case

The lower-case form of a text follows the full mapping of the Unicode standard.
Two characters need more than the table of single characters: the capital I with a
dot becomes two characters, and the capital sigma becomes its final form at the end
of a word.
-/

/-- Whether a code point lies in one of the given ranges. -/
def inRanges (code : Nat) (ranges : List (Nat × Nat)) : Bool :=
  ranges.any fun range => range.1 ≤ code && code ≤ range.2

/-- The lower-case form of a character that has one of a single character. -/
def lowerChar (c : Char) : Char :=
  let code := c.toNat
  match CaseTable.lowerCase.find? fun (first, last, step, _) =>
      first ≤ code && code ≤ last && (code - first) % step == 0 with
  | some (_, _, _, distance) => Char.ofNat (code + distance).toNat
  | none => c

/-- Whether the first character that is not ignored is a cased letter. -/
def meetsCased (text : List Char) : Bool :=
  match text.dropWhile fun c => inRanges c.toNat CaseTable.caseIgnorable with
  | c :: _ => inRanges c.toNat CaseTable.cased
  | [] => false

/-- The lower-case form of a character between the text before it, read backwards,
and the text behind it. -/
def lowerWithin (before : List Char) (c : Char) (after : List Char) : List Char :=
  if c.toNat = 0x130 then ['i', Char.ofNat 0x307]
  else if c.toNat = 0x3A3 then
    if meetsCased before && !meetsCased after then [Char.ofNat 0x3C2] else [Char.ofNat 0x3C3]
  else [lowerChar c]

/-- The lower-case form of a text behind a text that is read backwards. -/
def lowerAfter : (before : List Char) → List Char → List Char
  | _, [] => []
  | before, c :: rest => lowerWithin before c rest ++ lowerAfter (c :: before) rest

/-- The lower-case form of a text. -/
def lower (text : List Char) : List Char :=
  lowerAfter [] text

end Text
end FrameMachine
