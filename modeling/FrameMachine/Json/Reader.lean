import FrameMachine.Json.Basic
import FrameMachine.Numeral.Digits

namespace FrameMachine
namespace Json

/-!
# Reading JSON

The reader is strict.  Blanks are the space, the tab, the line feed and the
carriage return.  A string holds no control characters, its escapes are the
standard ones, and an escaped surrogate must be one half of a pair.  Nothing may
follow the value, and values may not be nested deeper than 127 levels.

The number of characters bounds the number of reading steps, so it serves as the
bound on the recursion.
-/

/-- The deepest nesting of arrays and objects that is read. -/
def maxDepth : Nat := 127

/-- The blanks between the parts of a document. -/
def isBlank (c : Char) : Bool :=
  c == ' ' || c == '\t' || c == '\n' || c == '\r'

/-- The text after its leading blanks. -/
def skipBlanks (text : List Char) : List Char :=
  text.dropWhile isBlank

/-- The code unit written by four hexadecimal digits. -/
def codeUnit? (a b c d : Char) : Option Nat :=
  (Numeral.digits? 16 [a, b, c, d]).map (Numeral.ofDigits 16)

/-- The character written by an escape of four hexadecimal digits, or by two such
escapes when the first is the upper half of a surrogate pair, and the text behind
it. -/
def escapedUnit? (unit : Nat) (rest : List Char) : Option (Char × List Char) :=
  if unit < 0xD800 || 0xDFFF < unit then some (Char.ofNat unit, rest)
  else if 0xDBFF < unit then none
  else
    match rest with
    | '\\' :: 'u' :: a :: b :: c :: d :: rest =>
        match codeUnit? a b c d with
        | some lower =>
            if 0xDC00 ≤ lower && lower ≤ 0xDFFF then
              some (Char.ofNat (0x10000 + (unit - 0xD800) * 0x400 + (lower - 0xDC00)), rest)
            else none
        | none => none
    | _ => none

/-- The character written by an escape, and the text behind it. -/
def escaped? : List Char → Option (Char × List Char)
  | '"' :: rest => some ('"', rest)
  | '\\' :: rest => some ('\\', rest)
  | '/' :: rest => some ('/', rest)
  | 'b' :: rest => some (Char.ofNat 8, rest)
  | 'f' :: rest => some (Char.ofNat 12, rest)
  | 'n' :: rest => some ('\n', rest)
  | 'r' :: rest => some ('\r', rest)
  | 't' :: rest => some ('\t', rest)
  | 'u' :: a :: b :: c :: d :: rest =>
      match codeUnit? a b c d with
      | some unit => escapedUnit? unit rest
      | none => none
  | _ => none

/-- The characters of a string up to its closing quote, and the text behind the
quote. -/
def stringBody? : (bound : Nat) → List Char → Option (List Char × List Char)
  | 0, _ => none
  | _ + 1, [] => none
  | bound + 1, c :: rest =>
      if c == '"' then some ([], rest)
      else if c == '\\' then
        match escaped? rest with
        | some (decoded, rest) =>
            (stringBody? bound rest).map fun (body, rest) => (decoded :: body, rest)
        | none => none
      else if c.toNat < 0x20 then none
      else (stringBody? bound rest).map fun (body, rest) => (c :: body, rest)

/-- One or more digits, and the text behind them. -/
def someDigits? (text : List Char) : Option (List Char × List Char) :=
  let digits := text.takeWhile Char.isDigit
  if digits.isEmpty then none else some (digits, text.dropWhile Char.isDigit)

/-- The digits of a whole number without leading zeros, and the text behind
them. -/
def wholeDigits? : List Char → Option (List Char × List Char)
  | '0' :: rest => some (['0'], rest)
  | text => someDigits? text

/-- An optional fraction, with its point. -/
def fraction? : List Char → Option (List Char × List Char)
  | '.' :: rest => (someDigits? rest).map fun (digits, rest) => ('.' :: digits, rest)
  | text => some ([], text)

/-- The digits of an exponent with their sign. -/
def signedDigits? : List Char → Option (List Char × List Char)
  | '+' :: rest => (someDigits? rest).map fun (digits, rest) => ('+' :: digits, rest)
  | '-' :: rest => (someDigits? rest).map fun (digits, rest) => ('-' :: digits, rest)
  | text => someDigits? text

/-- An optional exponent, with its letter. -/
def exponent? : List Char → Option (List Char × List Char)
  | 'e' :: rest => (signedDigits? rest).map fun (digits, rest) => ('e' :: digits, rest)
  | 'E' :: rest => (signedDigits? rest).map fun (digits, rest) => ('E' :: digits, rest)
  | text => some ([], text)

/-- The value of a number, from its parts. -/
def ofParts (negative : Bool) (whole fraction exponent : List Char) : Json :=
  let magnitude := (Numeral.digits? 10 whole).getD []
  if fraction.isEmpty && exponent.isEmpty && !(negative && whole == ['0']) then
    .integer (Numeral.signed negative (Numeral.ofDigits 10 magnitude))
  else
    .numeral (String.ofList ((if negative then ['-'] else []) ++ whole ++ fraction ++ exponent))

/-- A number without its sign, and the text behind it. -/
def unsigned? (negative : Bool) (text : List Char) : Option (Json × List Char) :=
  match wholeDigits? text with
  | some (whole, rest) =>
      match fraction? rest with
      | some (fraction, rest) =>
          match exponent? rest with
          | some (exponent, rest) => some (ofParts negative whole fraction exponent, rest)
          | none => none
      | none => none
  | none => none

/-- A number, and the text behind it. -/
def number? : List Char → Option (Json × List Char)
  | '-' :: rest => unsigned? true rest
  | text => unsigned? false text

mutual

/-- A value without blanks in front of it, and the text behind it. -/
def value? : (bound depth : Nat) → List Char → Option (Json × List Char)
  | 0, _, _ => none
  | bound + 1, depth, text =>
      match text with
      | '"' :: rest =>
          (stringBody? (bound + 1) rest).map fun (body, rest) =>
            (.string (String.ofList body), rest)
      | '[' :: rest =>
          if depth = 0 then none
          else
            match skipBlanks rest with
            | ']' :: rest => some (.array [], rest)
            | rest =>
                (items? bound (depth - 1) rest).map fun (items, rest) => (.array items, rest)
      | '{' :: rest =>
          if depth = 0 then none
          else
            match skipBlanks rest with
            | '}' :: rest => some (.object [], rest)
            | rest =>
                (members? bound (depth - 1) rest).map fun (members, rest) =>
                  (.object members, rest)
      | 'n' :: 'u' :: 'l' :: 'l' :: rest => some (.null, rest)
      | 't' :: 'r' :: 'u' :: 'e' :: rest => some (.bool true, rest)
      | 'f' :: 'a' :: 'l' :: 's' :: 'e' :: rest => some (.bool false, rest)
      | text => number? text

/-- The items of an array from the first character of one of them on, and the
text behind the closing bracket. -/
def items? : (bound depth : Nat) → List Char → Option (List Json × List Char)
  | 0, _, _ => none
  | bound + 1, depth, text =>
      match value? bound depth text with
      | some (item, rest) =>
          match skipBlanks rest with
          | ']' :: rest => some ([item], rest)
          | ',' :: rest =>
              (items? bound depth (skipBlanks rest)).map fun (items, rest) =>
                (item :: items, rest)
          | _ => none
      | none => none

/-- The members of an object from the first character of one of them on, and the
text behind the closing brace. -/
def members? : (bound depth : Nat) → List Char →
    Option (List (String × Json) × List Char)
  | 0, _, _ => none
  | bound + 1, depth, text =>
      match text with
      | '"' :: rest =>
          match stringBody? (bound + 1) rest with
          | some (name, rest) =>
              match skipBlanks rest with
              | ':' :: rest =>
                  match value? bound depth (skipBlanks rest) with
                  | some (value, rest) =>
                      match skipBlanks rest with
                      | '}' :: rest => some ([(String.ofList name, value)], rest)
                      | ',' :: rest =>
                          (members? bound depth (skipBlanks rest)).map fun (members, rest) =>
                            ((String.ofList name, value) :: members, rest)
                      | _ => none
                  | none => none
              | _ => none
          | none => none
      | _ => none

end

/-- The value written by a whole text. -/
def ofText? (text : String) : Option Json :=
  let characters := text.toList
  match value? (characters.length + 1) maxDepth (skipBlanks characters) with
  | some (value, rest) => if (skipBlanks rest).isEmpty then some value else none
  | none => none

end Json
end FrameMachine
