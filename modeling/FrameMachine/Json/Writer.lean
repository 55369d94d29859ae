import FrameMachine.Json.Basic

namespace FrameMachine
namespace Json

/-!
# Writing JSON

Two layouts are written: one without blanks, and one with a line for each item
and two spaces for each level, in which empty arrays and objects stay on one
line.  In strings only the quote, the backslash and the control characters are
escaped.
-/

/-- A hexadecimal digit of a control character. -/
def hexDigit (n : Nat) : Char :=
  Nat.digitChar (n % 16)

/-- How a character is written inside a string. -/
def escape (c : Char) : List Char :=
  if c == '"' then ['\\', '"']
  else if c == '\\' then ['\\', '\\']
  else if c == '\n' then ['\\', 'n']
  else if c == '\r' then ['\\', 'r']
  else if c == '\t' then ['\\', 't']
  else if c.toNat == 8 then ['\\', 'b']
  else if c.toNat == 12 then ['\\', 'f']
  else if c.toNat < 0x20 then
    ['\\', 'u', '0', '0', hexDigit (c.toNat / 16), hexDigit c.toNat]
  else [c]

/-- A string with its quotes. -/
def quoted (s : String) : List Char :=
  '"' :: (s.toList.flatMap escape ++ ['"'])

mutual

/-- The characters of a value without blanks. -/
def compact : Json → List Char
  | .null => "null".toList
  | .bool b => (if b then "true" else "false").toList
  | .integer n => (toString n).toList
  | .numeral text => text.toList
  | .string s => quoted s
  | .array items => '[' :: (compactItems items ++ [']'])
  | .object members => '{' :: (compactMembers members ++ ['}'])

/-- The items of an array, divided by commas. -/
def compactItems : List Json → List Char
  | [] => []
  | [item] => item.compact
  | item :: items => item.compact ++ ',' :: compactItems items

/-- The members of an object, divided by commas. -/
def compactMembers : List (String × Json) → List Char
  | [] => []
  | [(name, value)] => quoted name ++ ':' :: value.compact
  | (name, value) :: members =>
      quoted name ++ ':' :: (value.compact ++ ',' :: compactMembers members)

end

/-- The text of a value without blanks. -/
def text (value : Json) : String :=
  String.ofList value.compact

/-- A new line at the given level. -/
def newLine (level : Nat) : List Char :=
  '\n' :: List.replicate (2 * level) ' '

mutual

/-- The characters of a value with a line for each item. -/
def spread (level : Nat) : Json → List Char
  | .array [] => ['[', ']']
  | .array items => '[' :: (spreadItems (level + 1) items ++ newLine level ++ [']'])
  | .object [] => ['{', '}']
  | .object members => '{' :: (spreadMembers (level + 1) members ++ newLine level ++ ['}'])
  | value => value.compact

/-- The items of an array, each on a line of its own. -/
def spreadItems (level : Nat) : List Json → List Char
  | [] => []
  | [item] => newLine level ++ spread level item
  | item :: items => newLine level ++ spread level item ++ ',' :: spreadItems level items

/-- The members of an object, each on a line of its own. -/
def spreadMembers (level : Nat) : List (String × Json) → List Char
  | [] => []
  | [(name, value)] => newLine level ++ quoted name ++ ':' :: ' ' :: spread level value
  | (name, value) :: members =>
      newLine level ++ quoted name ++
        ':' :: ' ' :: (spread level value ++ ',' :: spreadMembers level members)

end

/-- The text of a value with a line for each item. -/
def prettyText (value : Json) : String :=
  String.ofList (value.spread 0)

end Json
end FrameMachine
