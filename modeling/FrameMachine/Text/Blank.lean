namespace FrameMachine
namespace Text

/-!
# Blanks

The blanks trimmed from numerals, opcodes and settings are the characters of
the Unicode property `White_Space`.  Zero-width characters, the byte order
mark and the ASCII separators below U+0020 other than tab to carriage return
are not among them.
-/

/-- The characters with the Unicode property `White_Space`. -/
def isBlank (c : Char) : Bool :=
  let code := c.toNat
  (9 ≤ code && code ≤ 13) || code == 0x20 || code == 0x85 || code == 0xA0 ||
    code == 0x1680 || (0x2000 ≤ code && code ≤ 0x200A) || code == 0x2028 ||
    code == 0x2029 || code == 0x202F || code == 0x205F || code == 0x3000

/-- The text without the blanks at its start. -/
def trimStart (text : List Char) : List Char :=
  text.dropWhile isBlank

/-- The text without the blanks at either end. -/
def trim (text : List Char) : List Char :=
  (trimStart (trimStart text).reverse).reverse

/-- Whether two texts agree when the letters `A` to `Z` are read as `a` to
`z`.  No other letter has a case here. -/
def sameIgnoringCase (left right : List Char) : Bool :=
  left.map Char.toLower == right.map Char.toLower

/-- The part before the first character that satisfies `divides`, and the part
after it when there is one. -/
def splitAtFirst (divides : Char → Bool) : List Char → List Char × Option (List Char)
  | [] => ([], none)
  | c :: rest =>
      if divides c then ([], some rest)
      else
        let (before, after) := splitAtFirst divides rest
        (c :: before, after)

end Text
end FrameMachine
