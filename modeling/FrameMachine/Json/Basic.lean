namespace FrameMachine

/-!
# JSON documents

An object keeps its members in the order of the text, repeated names included,
so that a reader of records can refuse them.  A number is kept as an integer when
it is written as one.  Every other numeral, and the numeral `-0`, is kept as text.
-/

/-- A JSON value. -/
inductive Json where
  | null
  | bool (b : Bool)
  | integer (n : Int)
  | numeral (text : String)
  | string (s : String)
  | array (items : List Json)
  | object (members : List (String × Json))

namespace Json

/-- The text in a string value. -/
def string? : Json → Option String
  | .string s => some s
  | _ => none

/-- The items of an array. -/
def array? : Json → Option (List Json)
  | .array items => some items
  | _ => none

/-- The fields of a record with the given field names.  A record is written as
an object whose names are among these and do not repeat, or as an array of the
fields in order, where the last ones may be missing. -/
def record? (names : List String) : Json → Option (List (Option Json))
  | .object members =>
      if members.all (fun member => names.contains member.1) &&
          decide (members.map Prod.fst).Nodup then
        some (names.map fun name => members.lookup name)
      else none
  | .array items =>
      if items.length ≤ names.length then
        some (items.map some ++ List.replicate (names.length - items.length) none)
      else none
  | _ => none

end Json
end FrameMachine
