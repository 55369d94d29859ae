import FrameMachine.Json.Reader
import FrameMachine.Json.Writer
import FrameMachine.Numeral.Integer

namespace FrameMachine

/-!
# Program listings

A program arrives as a JSON listing of entries, each with an order number, the
name of an opcode and arguments of a declared kind.  This module reads a listing
and writes it back; whether it is a program is decided by
`FrameMachine.Listing.Assembly`.
-/

/-- An argument: its declared kind and its text. -/
structure Listing.Argument where
  kind : String
  value : String
deriving DecidableEq

/-- An entry: one instruction before it is checked. -/
structure Listing.Entry where
  order : Int64
  opcode : String
  arguments : List Listing.Argument
deriving DecidableEq

/-- A listing, with its entries in any order. -/
structure Listing where
  entries : List Listing.Entry
deriving DecidableEq

namespace Listing

/-- The value of each item, if every item has one. -/
def each? {α : Type} (read? : Json → Option α) : List Json → Option (List α)
  | [] => some []
  | item :: items =>
      match read? item, each? read? items with
      | some value, some values => some (value :: values)
      | _, _ => none

/-- A list field, which is empty when it is missing. -/
def listField? {α : Type} (read? : Json → Option α) : Option Json → Option (List α)
  | none => some []
  | some json => json.array?.bind (each? read?)

/-- An argument from its record.  A missing text is empty. -/
def Argument.ofJson? (json : Json) : Option Argument :=
  match json.record? ["type", "value"] with
  | some [some kind, none] => kind.string?.map fun kind => ⟨kind, ""⟩
  | some [some kind, some value] =>
      match kind.string?, value.string? with
      | some kind, some value => some ⟨kind, value⟩
      | _, _ => none
  | _ => none

/-- An order number: an integer of 64 bits. -/
def order? : Json → Option Int64
  | .integer n => Numeral.int64? n
  | _ => none

/-- An entry from its record.  Missing arguments are none. -/
def Entry.ofJson? (json : Json) : Option Entry :=
  match json.record? ["order", "opcode", "args"] with
  | some [some order, some opcode, arguments] =>
      match order? order, opcode.string?, listField? Argument.ofJson? arguments with
      | some order, some opcode, some arguments => some ⟨order, opcode, arguments⟩
      | _, _, _ => none
  | _ => none

/-- A listing from its record.  Missing entries are none. -/
def ofJson? (json : Json) : Option Listing :=
  match json.record? ["instructions"] with
  | some [entries] => (listField? Entry.ofJson? entries).map Listing.mk
  | _ => none

/-- The listing written by a text. -/
def ofText? (text : String) : Option Listing :=
  (Json.ofText? text).bind ofJson?

/-- The record of an argument. -/
def Argument.toJson (argument : Argument) : Json :=
  .object [("type", .string argument.kind), ("value", .string argument.value)]

/-- The record of an entry. -/
def Entry.toJson (entry : Entry) : Json :=
  .object [("order", .integer entry.order.toInt), ("opcode", .string entry.opcode),
    ("args", .array (entry.arguments.map Argument.toJson))]

/-- The record of a listing. -/
def toJson (listing : Listing) : Json :=
  .object [("instructions", .array (listing.entries.map Entry.toJson))]

/-- The text of a listing. -/
def text (listing : Listing) : String :=
  listing.toJson.text

end Listing
end FrameMachine
