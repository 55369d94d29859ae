namespace FrameMachine

/-!
# TOML documents

A document is a table of keys and values.  How a table came about decides whether it
may be extended: one that is only implied by a longer header may still get a header
of its own, one made by dotted keys may get further dotted keys, and an inline table is
closed.  Numbers and dates are recognized and kept as text.
-/

/-- How a table came about. -/
inductive Toml.Origin where
  | header
  | implied
  | dotted
  | inline
deriving DecidableEq

/-- A TOML value.  The tables of `tables` were opened by headers in double brackets,
the latest one last. -/
inductive Toml where
  | string (s : String)
  | boolean (b : Bool)
  | scalar (text : String)
  | array (items : List Toml)
  | tables (items : List Toml)
  | table (origin : Toml.Origin) (entries : List (String × Toml))

namespace Toml

/-- The deepest nesting of arrays and inline tables in a document, and the greatest
number of parts of a key. -/
def maxDepth : Nat := 79

/-- The entries with the value of a key replaced. -/
def replace (key : String) (value : Toml) (entries : List (String × Toml)) :
    List (String × Toml) :=
  entries.map fun entry => if entry.1 = key then (key, value) else entry

/-- Change the table at the end of a path of keys, making the tables on the way that
are missing.  A path of dotted keys does not enter a table with a header, no path
enters a closed one, and of tables in double brackets the latest is meant. -/
def enter (dotted : Bool)
    (change : Origin → List (String × Toml) → Option (List (String × Toml))) :
    (path : List String) → Origin → List (String × Toml) → Option (List (String × Toml))
  | [], origin, entries => change origin entries
  | key :: path, _, entries =>
      match entries.lookup key with
      | none =>
          let origin := if dotted then Origin.dotted else .implied
          (enter dotted change path origin []).map fun inner =>
            entries ++ [(key, .table origin inner)]
      | some (.table origin inner) =>
          if origin = .inline ∨ (dotted = true ∧ origin = .header) then none
          else
            (enter dotted change path origin inner).map fun inner =>
              replace key (.table origin inner) entries
      | some (.tables items) =>
          match items.getLast? with
          | some (.table origin inner) =>
              (enter dotted change path origin inner).map fun inner =>
                replace key (.tables (items.dropLast ++ [.table origin inner])) entries
          | _ => none
      | some _ => none

/-- Add a key and its value to a table.  The key must be new, and a dotted path must
end in a table made by dotted keys. -/
def assign (path : List String) (key : String) (value : Toml) (origin : Origin)
    (entries : List (String × Toml)) : Option (List (String × Toml)) :=
  enter true
    (fun origin entries =>
      if (origin == .dotted) == path.isEmpty || (entries.lookup key).isSome then none
      else some (entries ++ [(key, value)]))
    path origin entries

/-- Open a table by a header.  There may be none yet but an implied one. -/
def openTable (path : List String) (key : String) (entries : List (String × Toml)) :
    Option (List (String × Toml)) :=
  enter false
    (fun _ entries =>
      match entries.lookup key with
      | none => some (entries ++ [(key, .table .header [])])
      | some (.table .implied inner) => some (replace key (.table .header inner) entries)
      | some _ => none)
    path .header entries

/-- Open a further table by a header in double brackets. -/
def openFurther (path : List String) (key : String) (entries : List (String × Toml)) :
    Option (List (String × Toml)) :=
  enter false
    (fun _ entries =>
      match entries.lookup key with
      | none => some (entries ++ [(key, .tables [.table .header []])])
      | some (.tables items) =>
          some (replace key (.tables (items ++ [.table .header []])) entries)
      | some _ => none)
    path .header entries

end Toml
end FrameMachine
