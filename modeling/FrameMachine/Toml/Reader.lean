import FrameMachine.Toml.Scan

namespace FrameMachine
namespace Toml

/-!
# Reading TOML documents

A document is read line by line: a comment, a header, or a key with its value.
Arrays and inline tables are nested no deeper than `maxDepth` levels.  The number of
characters bounds the number of reading steps.
-/

open Scan

/-- The keys in front of the last one, and the last one. -/
def splitKey (key : List String) : List String × String :=
  (key.dropLast, key.getLast?.getD "")

mutual

/-- A value that may open so many further levels of arrays and inline tables. -/
def value : (bound depth : Nat) → Scan Toml
  | 0, _ => failure
  | bound + 1, depth => do
      match ← peek with
      | some '"' | some '\'' => return .string (← quoted bound)
      | some '[' =>
          if depth = 0 then failure
          expect ['[']
          gap bound
          if ← accept [']'] then return .array []
          else return .array (← arrayItems bound (depth - 1))
      | some '{' =>
          if depth = 0 then failure
          expect ['{']
          blanks
          if ← accept ['}'] then return .table .inline []
          else return .table .inline (← inlineEntries bound (depth - 1) [])
      | some 't' =>
          expect ['t', 'r', 'u', 'e']
          return .boolean true
      | some 'f' =>
          expect ['f', 'a', 'l', 's', 'e']
          return .boolean false
      | _ => return .scalar (← numberOrDate bound)

/-- The items of an array from one of them on, with its closing bracket. -/
def arrayItems : (bound depth : Nat) → Scan (List Toml)
  | 0, _ => failure
  | bound + 1, depth => do
      let item ← value bound depth
      gap bound
      if ← accept [','] then
        gap bound
        if ← accept [']'] then return [item]
        else return item :: (← arrayItems bound depth)
      else
        expect [']']
        return [item]

/-- The entries of an inline table from a key on, with its closing brace. -/
def inlineEntries : (bound depth : Nat) → List (String × Toml) → Scan (List (String × Toml))
  | 0, _, _ => failure
  | bound + 1, depth, entries => do
      let (path, key) := splitKey (← key bound)
      expect ['=']
      blanks
      let item ← value bound depth
      blanks
      match assign path key item .inline entries with
      | none => failure
      | some entries =>
          if ← accept [','] then inlineEntries bound depth entries
          else
            expect ['}']
            return entries

end

/-- The document so far: its entries and the path of the table that is open. -/
structure Draft where
  entries : List (String × Toml)
  open_ : List String

/-- Add a key and its value to the open table. -/
def Draft.assign (draft : Draft) (key : List String) (item : Toml) : Option Draft :=
  let (path, name) := splitKey key
  (enter false (fun origin entries => Toml.assign path name item origin entries)
    draft.open_ .header draft.entries).map fun entries => { draft with entries := entries }

/-- A header, in single or double brackets. -/
def header (bound : Nat) (draft : Draft) : Scan Draft := do
  if ← accept ['[', '['] then
    let name ← key bound
    expect [']', ']']
    restOfLine
    let (path, last) := splitKey name
    match openFurther path last draft.entries with
    | some entries => return ⟨entries, name⟩
    | none => failure
  else
    expect ['[']
    let name ← key bound
    expect [']']
    restOfLine
    let (path, last) := splitKey name
    match openTable path last draft.entries with
    | some entries => return ⟨entries, name⟩
    | none => failure

/-- A key and its value. -/
def keyValue (bound : Nat) (draft : Draft) : Scan Draft := do
  let name ← key bound
  expect ['=']
  blanks
  let item ← value bound maxDepth
  restOfLine
  match draft.assign name item with
  | some draft => return draft
  | none => failure

/-- The lines of a document. -/
def lines : (bound : Nat) → Draft → Scan Draft
  | 0, _ => failure
  | bound + 1, draft => do
      blanks
      match ← peek with
      | none => return draft
      | some '#' =>
          restOfLine
          lines bound draft
      | some '\n' | some '\r' =>
          lineEnd
          lines bound draft
      | some '[' => lines bound (← header bound draft)
      | _ => lines bound (← keyValue bound draft)

/-- The entries of the document written by a text.  A byte order mark in front of it
is passed over. -/
def ofText? (text : String) : Option (List (String × Toml)) :=
  let characters := match text.toList with
    | c :: rest => if c.toNat = 0xFEFF then rest else c :: rest
    | [] => []
  match (lines (2 * characters.length + 2) ⟨[], []⟩).run characters with
  | some (draft, _) => some draft.entries
  | none => none

end Toml
end FrameMachine
