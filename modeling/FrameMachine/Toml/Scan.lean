import FrameMachine.Binary64.Decimal
import FrameMachine.Toml.Basic

namespace FrameMachine
namespace Toml

/-!
# The words of TOML

Blanks, comments, line ends, strings, keys, numbers and dates.  A scan takes its word
from the front of the remaining text or fails.
-/

/-- Take something from the front of the remaining text, or fail. -/
abbrev Scan (α : Type) : Type :=
  StateT (List Char) Option α

namespace Scan

/-- The next character, which stays where it is. -/
def peek : Scan (Option Char) := do
  return (← get).head?

/-- Take the next character. -/
def next : Scan Char := do
  match ← get with
  | c :: rest =>
      set rest
      return c
  | [] => failure

/-- Take the given text. -/
def expect (text : List Char) : Scan Unit := do
  let remaining ← get
  if text.isPrefixOf remaining then set (remaining.drop text.length) else failure

/-- Take the given text if it comes next. -/
def accept (text : List Char) : Scan Bool := do
  let remaining ← get
  if text.isPrefixOf remaining then
    set (remaining.drop text.length)
    return true
  else return false

/-- Take the longest run of characters that satisfy a test. -/
def takeRun (test : Char → Bool) : Scan (List Char) := do
  let remaining ← get
  set (remaining.dropWhile test)
  return remaining.takeWhile test

/-- Take a run of at least one character. -/
def someRun (test : Char → Bool) : Scan (List Char) := do
  let taken ← takeRun test
  if taken.isEmpty then failure else return taken

/-- Try a scan, and take nothing where it fails. -/
def attempt {α : Type} (scan : Scan α) : Scan (Option α) := fun text =>
  match StateT.run scan text with
  | some (value, rest) => some (some value, rest)
  | none => some (none, text)

/-- The blanks within a line. -/
def isBlank (c : Char) : Bool :=
  c == ' ' || c == '\t'

/-- Skip the blanks within a line. -/
def blanks : Scan Unit := do
  let _ ← takeRun isBlank

/-- Take a line end, which is a line feed after an optional carriage return. -/
def lineEnd : Scan Unit := do
  if ← accept ['\r', '\n'] then return else expect ['\n']

/-- The characters of comments and strings: none of the control characters but the
tab. -/
def isPlain (c : Char) : Bool :=
  c == '\t' || (0x20 ≤ c.toNat && c.toNat != 0x7F)

/-- Skip a comment, which ends with its line. -/
def comment : Scan Unit := do
  expect ['#']
  let _ ← takeRun isPlain

/-- Skip blanks and a comment up to the end of the line or of the text. -/
def restOfLine : Scan Unit := do
  blanks
  if (← peek) == some '#' then comment
  if (← get).isEmpty then return else lineEnd

/-- Skip blanks, line ends and comments that end with their line. -/
def gap : (bound : Nat) → Scan Unit
  | 0 => failure
  | bound + 1 => do
      blanks
      match ← peek with
      | some '#' =>
          comment
          lineEnd
          gap bound
      | some '\n' | some '\r' =>
          lineEnd
          gap bound
      | _ => return

/-! ## Strings -/

/-- The character with the code point written by a number of hexadecimal digits. -/
def codePoint (digits : Nat) : Scan Char := do
  let text ← get
  match Numeral.digits? 16 (text.take digits) with
  | some values =>
      let code := Numeral.ofDigits 16 values
      if values.length = digits ∧ code.isValidChar then
        set (text.drop digits)
        return Char.ofNat code
      else failure
  | none => failure

/-- The character written by an escape, after its backslash. -/
def escaped : Scan Char := do
  match ← next with
  | 'b' => return Char.ofNat 8
  | 't' => return '\t'
  | 'n' => return '\n'
  | 'f' => return Char.ofNat 12
  | 'r' => return '\r'
  | '"' => return '"'
  | '\\' => return '\\'
  | 'u' => codePoint 4
  | 'U' => codePoint 8
  | _ => failure

/-- The characters of a string on one line, up to its closing quote. -/
def basicBody : (bound : Nat) → Scan (List Char)
  | 0 => failure
  | bound + 1 => do
      let c ← next
      if c == '"' then return []
      else if c == '\\' then
        let decoded ← escaped
        return decoded :: (← basicBody bound)
      else if isPlain c then return c :: (← basicBody bound)
      else failure

/-- Skip a line end and all blanks and line ends behind it. -/
def foldedLines : (bound : Nat) → Scan Unit
  | 0 => failure
  | bound + 1 => do
      blanks
      match ← peek with
      | some '\n' | some '\r' =>
          lineEnd
          foldedLines bound
      | _ => return

/-- A backslash at the end of a line joins the line with the next text. -/
def lineJoin (bound : Nat) : Scan Unit := do
  expect ['\\']
  blanks
  lineEnd
  foldedLines bound

/-- The characters of a string over several lines, up to its three closing quotes.
Up to two further quotes in front of the closing ones belong to the string. -/
def longBasicBody : (bound : Nat) → Scan (List Char)
  | 0 => failure
  | bound + 1 => do
      let c ← peek
      if c == some '"' then
        let quotes ← takeRun (· == '"')
        if quotes.length < 3 then return quotes ++ (← longBasicBody bound)
        else if quotes.length ≤ 5 then return quotes.drop 3
        else failure
      else if c == some '\\' then
        match ← attempt (lineJoin bound) with
        | some _ => longBasicBody bound
        | none =>
            expect ['\\']
            let decoded ← escaped
            return decoded :: (← longBasicBody bound)
      else if c == some '\n' || c == some '\r' then
        lineEnd
        return '\n' :: (← longBasicBody bound)
      else
        let c ← next
        if isPlain c then return c :: (← longBasicBody bound) else failure

/-- The characters of a literal string on one line, up to its closing quote. -/
def literalBody : Scan (List Char) := do
  let body ← takeRun fun c => isPlain c && c != '\''
  expect ['\'']
  return body

/-- The characters of a literal string over several lines, up to its three closing
quotes.  Up to two further quotes in front of the closing ones belong to the string. -/
def longLiteralBody : (bound : Nat) → Scan (List Char)
  | 0 => failure
  | bound + 1 => do
      let c ← peek
      if c == some '\'' then
        let quotes ← takeRun (· == '\'')
        if quotes.length < 3 then return quotes ++ (← longLiteralBody bound)
        else if quotes.length ≤ 5 then return quotes.drop 3
        else failure
      else if c == some '\n' || c == some '\r' then
        lineEnd
        return '\n' :: (← longLiteralBody bound)
      else
        let c ← next
        if isPlain c then return c :: (← longLiteralBody bound) else failure

/-- Skip a line end that comes first in a string over several lines. -/
def firstLineEnd : Scan Unit := do
  let _ ← attempt lineEnd

/-- A string on one line, as keys have it. -/
def lineString (bound : Nat) : Scan String := do
  if ← accept ['"'] then return String.ofList (← basicBody bound)
  else
    expect ['\'']
    return String.ofList (← literalBody)

/-- A string of any form. -/
def quoted (bound : Nat) : Scan String := do
  if ← accept ['"', '"', '"'] then
    firstLineEnd
    return String.ofList (← longBasicBody bound)
  else if ← accept ['\'', '\'', '\''] then
    firstLineEnd
    return String.ofList (← longLiteralBody bound)
  else lineString bound

/-! ## Keys -/

/-- The characters of a key without quotes. -/
def isKeyChar (c : Char) : Bool :=
  c.isAlphanum || c == '_' || c == '-'

/-- One part of a key. -/
def keyPart (bound : Nat) : Scan String := do
  match ← peek with
  | some '"' | some '\'' => lineString bound
  | _ => return String.ofList (← someRun isKeyChar)

/-- The parts of a key, divided by dots, with blanks around each. -/
def keyParts : (bound : Nat) → Scan (List String)
  | 0 => failure
  | bound + 1 => do
      blanks
      let part ← keyPart bound
      blanks
      if ← accept ['.'] then return part :: (← keyParts bound) else return [part]

/-- A key, whose parts open no more levels than a document may have. -/
def key (bound : Nat) : Scan (List String) := do
  let parts ← keyParts bound
  if parts.length ≤ maxDepth then return parts else failure

/-! ## Numbers and dates -/

/-- Digits in which single underscores may stand between two digits.  The
underscores are left out. -/
def groupedDigits (isDigit : Char → Bool) : (bound : Nat) → Scan (List Char)
  | 0 => failure
  | bound + 1 => do
      let digits ← someRun isDigit
      match ← get with
      | '_' :: c :: _ =>
          if isDigit c then
            expect ['_']
            return digits ++ (← groupedDigits isDigit bound)
          else return digits
      | _ => return digits

/-- An optional sign. -/
def sign : Scan (List Char) := do
  if ← accept ['+'] then return ['+']
  else if ← accept ['-'] then return ['-']
  else return []

/-- A decimal number without leading zeros. -/
def wholeNumber (bound : Nat) : Scan (List Char) := do
  let negative ← sign
  if ← accept ['0'] then return negative ++ ['0']
  else return negative ++ (← groupedDigits Char.isDigit bound)

/-- The exponent of a number. -/
def exponent (bound : Nat) : Scan (List Char) := do
  let c ← next
  if c == 'e' || c == 'E' then return 'e' :: ((← sign) ++ (← groupedDigits Char.isDigit bound))
  else failure

/-- The fraction of a number. -/
def fraction (bound : Nat) : Scan (List Char) := do
  expect ['.']
  return '.' :: (← groupedDigits Char.isDigit bound)

/-- A number with a fraction or an exponent. -/
def decimalFraction (bound : Nat) : Scan (List Char) := do
  let whole ← wholeNumber bound
  match ← attempt (fraction bound) with
  | some digits =>
      match ← attempt (exponent bound) with
      | some power => return whole ++ digits ++ power
      | none => return whole ++ digits
  | none => return whole ++ (← exponent bound)

/-- Whether a number is positive and too large for a floating-point number. -/
def isTooLarge (number : List Char) : Bool :=
  number.head? != some '-' &&
    Binary64.decimalDigits? (number.dropWhile (· == '+')) == some (.infinite false)

/-- A number with a fraction or an exponent, or one of the words for infinity and
NaN. -/
def float (bound : Nat) : Scan (List Char) := do
  match ← attempt (do return (← sign) ++ (← someRun Char.isAlpha)) with
  | some word =>
      let name := String.ofList (word.dropWhile fun c => c == '+' || c == '-')
      if name = "inf" ∨ name = "nan" then return word else failure
  | none =>
      let number ← decimalFraction bound
      if isTooLarge number then failure else return number

/-- Whether digits in a base denote a number within a limit. -/
def isInRange (base : Nat) (digits : List Char) (limit : Nat) : Bool :=
  match Numeral.natural? base digits with
  | some magnitude => magnitude ≤ limit
  | none => false

/-- An integer in the given base behind its marker. -/
def basedInteger (base : Nat) (marker : List Char) (bound : Nat) : Scan (List Char) := do
  expect marker
  let digits ← groupedDigits (fun c => (Numeral.digit? base c).isSome) bound
  if isInRange base digits (Nat.pow 2 63 - 1) then return marker ++ digits else failure

/-- An integer. -/
def integer (bound : Nat) : Scan (List Char) := do
  match ← get with
  | '0' :: 'x' :: _ => basedInteger 16 ['0', 'x'] bound
  | '0' :: 'o' :: _ => basedInteger 8 ['0', 'o'] bound
  | '0' :: 'b' :: _ => basedInteger 2 ['0', 'b'] bound
  | _ =>
      let digits ← wholeNumber bound
      let negative := digits.head? == some '-'
      let magnitude := digits.dropWhile fun c => c == '+' || c == '-'
      if isInRange 10 magnitude (if negative then Nat.pow 2 63 else Nat.pow 2 63 - 1) then return digits
      else failure

/-- A number of exactly so many digits, within limits. -/
def fixedNumber (count low high : Nat) : Scan Nat := do
  let text ← get
  let digits := text.take count
  match Numeral.natural? 10 digits with
  | some n =>
      if digits.length = count ∧ low ≤ n ∧ n ≤ high then
        set (text.drop count)
        return n
      else failure
  | none => failure

/-- The number of days in a month. -/
def daysIn (year month : Nat) : Nat :=
  if month = 2 then
    if year % 4 = 0 ∧ (year % 100 ≠ 0 ∨ year % 400 = 0) then 29 else 28
  else if month = 4 ∨ month = 6 ∨ month = 9 ∨ month = 11 then 30
  else 31

/-- A date. -/
def date : Scan Unit := do
  let year ← fixedNumber 4 0 9999
  expect ['-']
  let month ← fixedNumber 2 1 12
  expect ['-']
  let _ ← fixedNumber 2 1 (daysIn year month)

/-- A time of day, with an optional fraction of a second. -/
def time : Scan Unit := do
  let _ ← fixedNumber 2 0 23
  expect [':']
  let _ ← fixedNumber 2 0 59
  expect [':']
  let _ ← fixedNumber 2 0 60
  let _ ← attempt (do
    expect ['.']
    someRun Char.isDigit)

/-- The distance of a local time from the universal one. -/
def offset : Scan Unit := do
  let c ← next
  if c == 'Z' || c == 'z' then return
  else if c == '+' || c == '-' then
    let _ ← fixedNumber 2 0 23
    expect [':']
    let _ ← fixedNumber 2 0 59
  else failure

/-- The time behind a date. -/
def timeOfDate : Scan Unit := do
  let c ← next
  if c == 'T' || c == 't' || c == ' ' then
    time
    let _ ← attempt offset
  else failure

/-- A date, a time, or both. -/
def dateOrTime : Scan Unit := do
  match ← attempt date with
  | some _ =>
      let _ ← attempt timeOfDate
  | none => time

/-- A number or a date. -/
def numberOrDate (bound : Nat) : Scan String := do
  let text ← get
  match ← attempt dateOrTime with
  | some _ =>
      let rest ← get
      return String.ofList (text.take (text.length - rest.length))
  | none =>
      match ← attempt (float bound) with
      | some number => return String.ofList number
      | none => return String.ofList (← integer bound)

end Scan
end Toml
end FrameMachine
