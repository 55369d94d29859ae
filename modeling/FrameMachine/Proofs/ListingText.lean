import FrameMachine.Listing.Assembly
import FrameMachine.Proofs.JsonText
import FrameMachine.Proofs.Lookup
import Mathlib.Data.List.Forall2
import Mathlib.Data.List.Nodup

namespace FrameMachine

/-!
# Listings and their texts

A listing is written as records within records, and there are many ways to write one.  Each
record is an object, with its fields in any order, or an array of the fields in their fixed
order.  A last field that would be empty may be left out.  All of these choices can be mixed, and
the text is read as the same listing.  Nothing else is read as a listing.

In particular an object whose names are not right is refused wherever it stands: with a name that
the record does not have, with a name twice, or without a name that the record needs.  In an array
the fields are known by their places, so that there are only too many or too few of them.
-/

namespace Json

/-! ## Records -/

/-- The ways to write a record with the given fields. -/
inductive RecordOf (fields : List (String × Json)) : Json → Prop
  | object {members : List (String × Json)} (same : members.Perm fields) :
      RecordOf fields (.object members)
  | array : RecordOf fields (.array (fields.map Prod.snd))

/-- An object with a name that is not among those of the record, with a name twice, or without
a name that is required, or an array of a length that the record cannot have. -/
def SpoiledRecord (names required : List String) : Json → Prop
  | .object members => (∃ member ∈ members, member.1 ∉ names) ∨ ¬(members.map Prod.fst).Nodup ∨
      ∃ name ∈ required, name ∉ members.map Prod.fst
  | .array items => items.length < required.length ∨ names.length < items.length
  | _ => False

/-- The json has this field: as the member of an object, or at its place in an array. -/
def HasField (json : Json) (place : Nat) (name : String) (field : Json) : Prop :=
  match json with
  | .object members => (name, field) ∈ members
  | .array items => items[place]? = some field
  | _ => False

/-- A record that is spoiled itself or has a spoiled part in a list. -/
inductive Spoiled (names required : List String) (place : Nat) (name : String)
    (Part : Json → Prop) (json : Json) : Prop
  | here (spoiled : json.SpoiledRecord names required)
  | inside {items : List Json} {item : Json} (has : json.HasField place name (.array items))
      (member : item ∈ items) (spoiled : Part item)

variable {json field : Json} {fields : List (String × Json)} {names required : List String}
  {name : String}

theorem string?_eq_some_iff {s : String} : json.string? = some s ↔ json = .string s := by
  cases json <;> simp [Json.string?]

/-- A written record is read as its fields, and the fields behind them are missing. -/
theorem RecordOf.record? (record : RecordOf fields json) (more : List String)
    (distinct : (fields.map Prod.fst ++ more).Nodup) :
    json.record? (fields.map Prod.fst ++ more) =
      some (fields.map (fun field => some field.2) ++ List.replicate more.length none) := by
  rcases List.nodup_append.mp distinct with ⟨distinctFields, -, apart⟩
  cases record with
  | @object members same =>
      have sameNames := same.map Prod.fst
      have distinctMembers : (members.map Prod.fst).Nodup := sameNames.nodup_iff.mpr distinctFields
      have known : members.all (fun member => (fields.map Prod.fst ++ more).contains member.1) =
          true := by
        rw [List.all_eq_true]
        intro member found
        have named : member.1 ∈ fields.map Prod.fst :=
          sameNames.mem_iff.mp (List.mem_map_of_mem found)
        simpa using Or.inl (by simpa using named)
      have present : (fields.map Prod.fst).map (fun name => members.lookup name) =
          fields.map fun field => some field.2 := by
        rw [List.map_map]
        apply List.map_congr_left
        intro field found
        exact (Lookup.lookup_eq_some_iff_mem distinctMembers).mpr (same.mem_iff.mpr found)
      have missing : more.map (fun name => members.lookup name) =
          List.replicate more.length none := by
        apply List.eq_replicate_iff.mpr
        refine ⟨List.length_map .., ?_⟩
        intro value found
        rcases List.mem_map.mp found with ⟨name, further, rfl⟩
        apply Lookup.lookup_eq_none_iff_notMem.mpr
        intro named
        exact apart name (sameNames.mem_iff.mp named) name further rfl
      rw [Json.record?, known, decide_eq_true distinctMembers, List.map_append, present, missing]
      rfl
  | array => simp [Json.record?, Function.comp_def]

/-- A document that is nested at most this deeply. -/
structure FitsIn (json : Json) (depth : Nat) : Prop where
  document : json.IsDocument
  nesting : json.nesting ≤ depth

theorem fitsIn_integer (n : Int) (depth : Nat) : (Json.integer n).FitsIn depth :=
  ⟨.integer n, Nat.zero_le depth⟩

theorem fitsIn_string (s : String) (depth : Nat) : (Json.string s).FitsIn depth :=
  ⟨.string s, Nat.zero_le depth⟩

/-- An array is nested by one level more than its items. -/
theorem fitsIn_array {items : List Json} {depth : Nat} (each : ∀ item ∈ items, item.FitsIn depth) :
    (Json.array items).FitsIn (depth + 1) := by
  refine ⟨.array fun item member => (each item member).document, Nat.succ_le_succ ?_⟩
  induction items with
  | nil => exact Nat.zero_le depth
  | cons item items inductionHypothesis =>
      rcases List.forall_mem_cons.mp each with ⟨first, others⟩
      exact Nat.max_le.mpr ⟨first.nesting, inductionHypothesis others⟩

/-- So is an object. -/
theorem fitsIn_object {members : List (String × Json)} {depth : Nat}
    (each : ∀ member ∈ members, member.2.FitsIn depth) :
    (Json.object members).FitsIn (depth + 1) := by
  refine ⟨.object fun member found => (each member found).document, Nat.succ_le_succ ?_⟩
  induction members with
  | nil => exact Nat.zero_le depth
  | cons member members inductionHypothesis =>
      rcases List.forall_mem_cons.mp each with ⟨first, others⟩
      exact Nat.max_le.mpr ⟨first.nesting, inductionHypothesis others⟩

theorem RecordOf.fitsIn (record : RecordOf fields json) {depth : Nat}
    (each : ∀ field ∈ fields, field.2.FitsIn depth) : json.FitsIn (depth + 1) := by
  cases record with
  | object same => exact fitsIn_object fun member found => each member (same.mem_iff.mp found)
  | array =>
      apply fitsIn_array
      intro item found
      rcases List.mem_map.mp found with ⟨field, member, rfl⟩
      exact each field member

/-- The fields that are present among those with the given names. -/
def present (names : List String) (values : List (Option Json)) : List (String × Json) :=
  (names.zip values).filterMap fun field => field.2.map fun value => (field.1, value)

theorem present_cons (names : List String) (value : Option Json) (values : List (Option Json)) :
    present (name :: names) (value :: values) =
      (value.map fun field => (name, field)).toList ++ present names values := by
  cases value <;> rfl

theorem mem_present_map {find : String → Option Json} :
    (name, field) ∈ present names (names.map find) ↔ name ∈ names ∧ find name = some field := by
  induction names with
  | nil => simp [present]
  | cons first names inductionHypothesis =>
      rw [List.map_cons, present_cons, List.mem_append, inductionHypothesis, List.mem_cons,
        or_and_right]
      simp only [Option.mem_toList, Option.map_eq_some_iff, Prod.mk.injEq]
      grind

theorem sublist_present (names : List String) (values : List (Option Json)) :
    ((present names values).map Prod.fst).Sublist names := by
  induction names generalizing values with
  | nil => exact List.Sublist.refl []
  | cons name names inductionHypothesis =>
      cases values with
      | nil => exact List.nil_sublist _
      | cons value values =>
          rw [present_cons, List.map_append]
          cases value with
          | none => exact (inductionHypothesis values).cons name
          | some field => exact (inductionHypothesis values).cons_cons name

/-- The fields of an array are all that it has. -/
theorem map_snd_present {items : List Json} (short : items.length ≤ names.length) (missing : Nat) :
    (present names (items.map some ++ List.replicate missing none)).map Prod.snd = items := by
  induction items generalizing names with
  | nil =>
      have absent : present names (List.replicate missing none) = [] := by
        apply List.filterMap_eq_nil_iff.mpr
        rintro ⟨name, value⟩ found
        rw [List.eq_of_mem_replicate (List.of_mem_zip found).2]
        rfl
      simp [absent]
  | cons item items inductionHypothesis =>
      cases names with
      | nil => cases short
      | cons name names =>
          have others := inductionHypothesis (Nat.le_of_succ_le_succ short)
          simpa [present] using others

/-- What is read as a record is written as the fields that are present. -/
theorem recordOf_of_record? {values : List (Option Json)} (distinct : names.Nodup)
    (read : json.record? names = some values) : RecordOf (present names values) json := by
  unfold Json.record? at read
  split at read
  · rename_i members
    split at read <;> cases read
    rename_i passes
    rw [Bool.and_eq_true, List.all_eq_true, decide_eq_true_eq] at passes
    rcases passes with ⟨known, distinctMembers⟩
    apply RecordOf.object
    -- Neither list repeats a name, so that it is enough that they have the same members.
    have distinctPresent (values) : ((present names values).map Prod.fst).Nodup :=
      distinct.sublist (sublist_present names values)
    apply (List.perm_ext_iff_of_nodup (.of_map _ distinctMembers)
      (.of_map _ (distinctPresent _))).mpr
    rintro ⟨name, field⟩
    rw [mem_present_map, Lookup.lookup_eq_some_iff_mem distinctMembers]
    constructor
    · intro found
      exact ⟨by simpa using known _ found, found⟩
    · exact And.right
  · rename_i items
    split at read <;> cases read
    rename_i short
    have whole (fields : List (String × Json)) (same : fields.map Prod.snd = items) :
        RecordOf fields (.array items) := same ▸ .array
    exact whole _ (map_snd_present short _)
  · cases read

/-- A written record is not spoiled. -/
theorem RecordOf.not_spoiledRecord (record : RecordOf fields json) (distinct : names.Nodup)
    (known : fields.map Prod.fst <+: names) (complete : required <+: fields.map Prod.fst) :
    ¬json.SpoiledRecord names required := by
  cases record with
  | @object members same =>
      have sameNames := same.map Prod.fst
      rintro (⟨member, found, unknown⟩ | repeated | ⟨name, needed, missing⟩)
      · exact unknown (known.subset (sameNames.mem_iff.mp (List.mem_map_of_mem found)))
      · exact repeated (sameNames.nodup_iff.mpr (distinct.sublist known.sublist))
      · exact missing (sameNames.mem_iff.mpr (complete.subset needed))
  | array =>
      have enough := complete.length_le
      have fitting := known.length_le
      rw [List.length_map] at enough fitting
      rintro (short | long)
      · rw [List.length_map] at short
        exact absurd enough (Nat.not_le_of_lt short)
      · rw [List.length_map] at long
        exact absurd fitting (Nat.not_le_of_lt long)

/-- Nor is a part of it if no list in its fields has a spoiled part. -/
theorem RecordOf.not_spoiled {place : Nat} {Part : Json → Prop} (record : RecordOf fields json)
    (distinct : names.Nodup) (known : fields.map Prod.fst <+: names)
    (complete : required <+: fields.map Prod.fst)
    (clear : ∀ items, (name, .array items) ∈ fields ∨
      (fields.map Prod.snd)[place]? = some (.array items) → ∀ item ∈ items, ¬Part item) :
    ¬json.Spoiled names required place name Part := by
  intro spoiled
  cases spoiled with
  | here spoiled => exact record.not_spoiledRecord distinct known complete spoiled
  | inside has member spoiled =>
      cases record with
      | object same => exact clear _ (Or.inl (same.mem_iff.mp has)) _ member spoiled
      | array => exact clear _ (Or.inr has) _ member spoiled

end Json

namespace Listing

open Json (RecordOf IsDocument)

/-! ## Written forms -/

/-- The ways to write an argument.  An empty text may be left out. -/
inductive Argument.WrittenAs (argument : Argument) (json : Json) : Prop
  | full (record : RecordOf
      [("type", .string argument.kind), ("value", .string argument.value)] json)
  | short (empty : argument.value = "") (record : RecordOf [("type", .string argument.kind)] json)

/-- The ways to write an entry.  An empty list of arguments may be left out. -/
inductive Entry.WrittenAs (entry : Entry) (json : Json) : Prop
  | full {arguments : List Json} (each : List.Forall₂ Argument.WrittenAs entry.arguments arguments)
      (record : RecordOf [("order", .integer entry.order.toInt), ("opcode", .string entry.opcode),
        ("args", .array arguments)] json)
  | short (empty : entry.arguments = [])
      (record : RecordOf [("order", .integer entry.order.toInt),
        ("opcode", .string entry.opcode)] json)

/-- The ways to write a listing.  An empty list of entries may be left out. -/
inductive WrittenAs (listing : Listing) (json : Json) : Prop
  | full {entries : List Json} (each : List.Forall₂ Entry.WrittenAs listing.entries entries)
      (record : RecordOf [("instructions", .array entries)] json)
  | short (empty : listing.entries = []) (record : RecordOf [] json)

section Reading

variable {json : Json}

theorem each?_eq_some_iff {α : Type} {read? : Json → Option α} {values : List α}
    {items : List Json} : each? read? items = some values ↔
      List.Forall₂ (fun value item => read? item = some value) values items := by
  induction items generalizing values with
  | nil => simp [each?, eq_comm]
  | cons item items inductionHypothesis =>
      rw [List.forall₂_cons_right_iff]
      constructor
      · intro read
        rw [each?] at read
        split at read <;> cases read
        rename_i value values first rest
        exact ⟨value, values, first, inductionHypothesis.mp rest, rfl⟩
      · rintro ⟨value, values, first, rest, rfl⟩
        rw [each?, first, inductionHypothesis.mpr rest]

theorem listField?_eq_some_iff {α : Type} {read? : Json → Option α} {values : List α}
    {field : Option Json} : listField? read? field = some values ↔
      field = none ∧ values = [] ∨ ∃ items, field = some (.array items) ∧
        List.Forall₂ (fun value item => read? item = some value) values items := by
  cases field with
  | none => simp [listField?, eq_comm]
  | some json => cases json <;> simp [listField?, Json.array?, each?_eq_some_iff]

/-- An order number is read from its own integer. -/
theorem order?_eq_some_iff {order : Int64} :
    order? json = some order ↔ json = .integer order.toInt := by
  cases json with
  | integer n =>
      rw [order?, Json.integer.injEq]
      exact Numeral.int64?_eq_some_iff
  | _ => simp [order?]

theorem Argument.WrittenAs.ofJson? {argument : Argument} (written : argument.WrittenAs json) :
    Argument.ofJson? json = some argument := by
  cases written with
  | full record =>
      have read : json.record? ["type", "value"] =
          some [some (.string argument.kind), some (.string argument.value)] :=
        record.record? [] (by simp)
      rw [Argument.ofJson?, read]
      rfl
  | short empty record =>
      have read : json.record? ["type", "value"] = some [some (.string argument.kind), none] :=
        record.record? ["value"] (by simp)
      rw [Argument.ofJson?, read]
      simp [Json.string?, ← empty]

theorem Argument.ofJson?_eq_some_iff {argument : Argument} :
    Argument.ofJson? json = some argument ↔ argument.WrittenAs json := by
  constructor
  · intro read
    rw [Argument.ofJson?] at read
    split at read
    · rename_i kind record
      rcases Option.map_eq_some_iff.mp read with ⟨text, spelled, rfl⟩
      cases Json.string?_eq_some_iff.mp spelled
      exact .short rfl (Json.recordOf_of_record? (by simp) record)
    · rename_i kind value record
      split at read <;> cases read
      rename_i kindText valueText spelledKind spelledValue
      cases Json.string?_eq_some_iff.mp spelledKind
      cases Json.string?_eq_some_iff.mp spelledValue
      exact .full (Json.recordOf_of_record? (by simp) record)
    · cases read
  · exact fun written => written.ofJson?

theorem Entry.WrittenAs.ofJson? {entry : Entry} (written : entry.WrittenAs json) :
    Entry.ofJson? json = some entry := by
  have order : Listing.order? (.integer entry.order.toInt) = some entry.order :=
    order?_eq_some_iff.mpr rfl
  cases written with
  | @full arguments each record =>
      have read : json.record? ["order", "opcode", "args"] =
          some [some (.integer entry.order.toInt), some (.string entry.opcode),
            some (.array arguments)] := record.record? [] (by simp)
      have inside : each? Argument.ofJson? arguments = some entry.arguments :=
        each?_eq_some_iff.mpr (each.imp fun _ _ written => written.ofJson?)
      simp [Entry.ofJson?, read, order, Json.string?, listField?, Json.array?, inside]
  | short empty record =>
      have read : json.record? ["order", "opcode", "args"] =
          some [some (.integer entry.order.toInt), some (.string entry.opcode), none] :=
        record.record? ["args"] (by simp)
      simp [Entry.ofJson?, read, order, Json.string?, listField?, ← empty]

theorem Entry.ofJson?_eq_some_iff {entry : Entry} :
    Entry.ofJson? json = some entry ↔ entry.WrittenAs json := by
  constructor
  · intro read
    rw [Entry.ofJson?] at read
    split at read
    · rename_i order opcode arguments record
      split at read <;> cases read
      rename_i orderNumber opcodeText argumentList readOrder spelled inside
      cases order?_eq_some_iff.mp readOrder
      cases Json.string?_eq_some_iff.mp spelled
      rcases listField?_eq_some_iff.mp inside with ⟨missing, empty⟩ | ⟨items, found, each⟩
      · rw [missing] at record
        exact .short empty (Json.recordOf_of_record? (by simp) record)
      · rw [found] at record
        exact .full (each.imp fun _ _ read => Argument.ofJson?_eq_some_iff.mp read)
          (Json.recordOf_of_record? (by simp) record)
    · cases read
  · exact fun written => written.ofJson?

/-- However a listing is written, it is read from the document. -/
theorem WrittenAs.ofJson? {listing : Listing} (written : listing.WrittenAs json) :
    Listing.ofJson? json = some listing := by
  cases written with
  | @full entries each record =>
      have read : json.record? ["instructions"] = some [some (.array entries)] :=
        record.record? [] (by simp)
      have inside : each? Entry.ofJson? entries = some listing.entries :=
        each?_eq_some_iff.mpr (each.imp fun _ _ written => written.ofJson?)
      simp [Listing.ofJson?, read, listField?, Json.array?, inside]
  | short empty record =>
      -- The record has no fields, so that the name of its only field is among the missing ones.
      have read : json.record? ["instructions"] = some [none] :=
        record.record? ["instructions"] (by simp)
      simp [Listing.ofJson?, read, listField?, ← empty]

/-- What is read as a listing is one of the ways to write it. -/
theorem ofJson?_eq_some_iff {listing : Listing} :
    Listing.ofJson? json = some listing ↔ listing.WrittenAs json := by
  constructor
  · intro read
    rw [Listing.ofJson?] at read
    split at read
    · rename_i entries record
      rcases Option.map_eq_some_iff.mp read with ⟨entryList, inside, rfl⟩
      rcases listField?_eq_some_iff.mp inside with ⟨missing, empty⟩ | ⟨items, found, each⟩
      · rw [missing] at record
        exact .short empty (Json.recordOf_of_record? (by simp) record)
      · rw [found] at record
        exact .full (each.imp fun _ _ read => Entry.ofJson?_eq_some_iff.mp read)
          (Json.recordOf_of_record? (by simp) record)
    · cases read
  · exact fun written => written.ofJson?

end Reading

/-! ## Written forms are documents -/

section Documents

variable {json : Json}

theorem Argument.WrittenAs.fitsIn {argument : Argument} (written : argument.WrittenAs json) :
    json.FitsIn 1 := by
  cases written with
  | full record =>
      apply record.fitsIn
      simp [Json.fitsIn_string]
  | short empty record =>
      apply record.fitsIn
      simp [Json.fitsIn_string]

/-- A list of written parts is a document with one level more. -/
theorem fitsIn_of_forall₂ {α : Type} {Written : α → Json → Prop} {depth : Nat}
    (fitting : ∀ value item, Written value item → item.FitsIn depth) {values : List α}
    {items : List Json} (each : List.Forall₂ Written values items) :
    (Json.array items).FitsIn (depth + 1) := by
  apply Json.fitsIn_array
  induction each with
  | nil => exact fun _ member => nomatch member
  | cons first _ inductionHypothesis =>
      exact List.forall_mem_cons.mpr ⟨fitting _ _ first, inductionHypothesis⟩

theorem Entry.WrittenAs.fitsIn {entry : Entry} (written : entry.WrittenAs json) :
    json.FitsIn 3 := by
  cases written with
  | full each record =>
      have inside := fitsIn_of_forall₂ (fun _ _ written => written.fitsIn) each
      apply record.fitsIn
      simp [Json.fitsIn_integer, Json.fitsIn_string, inside]
  | short empty record =>
      apply record.fitsIn
      simp [Json.fitsIn_integer, Json.fitsIn_string]

/-- A written listing is nested less deeply than the reader allows. -/
theorem WrittenAs.fitsIn {listing : Listing} (written : listing.WrittenAs json) :
    json.FitsIn 5 := by
  cases written with
  | full each record =>
      have inside := fitsIn_of_forall₂ (fun _ _ written => written.fitsIn) each
      apply record.fitsIn
      simp [inside]
  | short empty record =>
      apply record.fitsIn
      simp

end Documents

/-- A listing is written as its own record. -/
theorem writtenAs_toJson (listing : Listing) : listing.WrittenAs listing.toJson := by
  have arguments (entry : Entry) : List.Forall₂ Argument.WrittenAs entry.arguments
      (entry.arguments.map Argument.toJson) := by
    rw [List.forall₂_map_right_iff, List.forall₂_same]
    intro argument _
    exact .full (.object (.refl _))
  have entries : List.Forall₂ Entry.WrittenAs listing.entries
      (listing.entries.map Entry.toJson) := by
    rw [List.forall₂_map_right_iff, List.forall₂_same]
    intro entry _
    exact .full (arguments entry) (.object (.refl _))
  exact .full entries (.object (.refl _))

/-! ## Spoiled records -/

/-- An argument with names that are not right.  It has no parts. -/
def Argument.Spoiled (json : Json) : Prop :=
  json.SpoiledRecord ["type", "value"] ["type"]

/-- An entry with names that are not right, its own or those of an argument. -/
def Entry.Spoiled : Json → Prop :=
  Json.Spoiled ["order", "opcode", "args"] ["order", "opcode"] 2 "args" Argument.Spoiled

/-- A listing with names that are not right, its own or those of an entry. -/
def Spoiled : Json → Prop :=
  Json.Spoiled ["instructions"] [] 0 "instructions" Entry.Spoiled

section Refusing

variable {json : Json}

theorem Argument.WrittenAs.not_spoiled {argument : Argument} (written : argument.WrittenAs json) :
    ¬Argument.Spoiled json := by
  cases written with
  | full record => exact record.not_spoiledRecord (by simp) (by simp) (by simp)
  | short _ record => exact record.not_spoiledRecord (by simp) (by simp) (by simp)

/-- No part of a written list is spoiled if none can be. -/
theorem not_spoiled_of_forall₂ {α : Type} {Written : α → Json → Prop} {SpoiledPart : Json → Prop}
    (sound : ∀ value item, Written value item → ¬SpoiledPart item) {values : List α}
    {items : List Json} (each : List.Forall₂ Written values items) :
    ∀ item ∈ items, ¬SpoiledPart item := by
  induction each with
  | nil => exact fun _ member => nomatch member
  | cons first _ inductionHypothesis =>
      exact List.forall_mem_cons.mpr ⟨sound _ _ first, inductionHypothesis⟩

theorem Entry.WrittenAs.not_spoiled {entry : Entry} (written : entry.WrittenAs json) :
    ¬Entry.Spoiled json := by
  cases written with
  | @full arguments each record =>
      apply record.not_spoiled (by simp) (by simp) (by simp)
      intro items found
      have same : items = arguments := by simpa [eq_comm] using found
      rw [same]
      exact not_spoiled_of_forall₂ (fun _ _ written => written.not_spoiled) each
  | short _ record =>
      apply record.not_spoiled (by simp) (by simp) (by simp)
      intro items found
      simp at found

theorem WrittenAs.not_spoiled {listing : Listing} (written : listing.WrittenAs json) :
    ¬Spoiled json := by
  cases written with
  | @full entries each record =>
      apply record.not_spoiled (by simp) (by simp) (by simp)
      intro items found
      have same : items = entries := by simpa [eq_comm] using found
      rw [same]
      exact not_spoiled_of_forall₂ (fun _ _ written => written.not_spoiled) each
  | short _ record =>
      apply record.not_spoiled (by simp) (by simp) (by simp)
      intro items found
      simp at found

end Refusing

/-! ## Texts -/

theorem ofText_error {text : String} {error : Error} (refused : ofText text = .error error) :
    error.kind = .malformedProgram := by
  unfold ofText at refused
  split at refused <;> cases refused
  rfl

/-- The text of a document is read as what the document is written for. -/
theorem ofText_text_eq_ok_iff {listing : Listing} {json : Json} (document : json.IsDocument) :
    ofText json.text = .ok listing ↔ listing.WrittenAs json := by
  have read : ofText json.text = .ok listing ↔ Listing.ofText? json.text = some listing := by
    unfold ofText
    split <;> simp [*]
  rw [read, Listing.ofText?, document.ofText?_text]
  constructor
  · intro found
    split at found
    · exact ofJson?_eq_some_iff.mp found
    · cases found
  · intro written
    have shallow : json.nesting ≤ Json.maxDepth :=
      Nat.le_trans written.fitsIn.nesting (by decide)
    rw [if_pos shallow]
    exact ofJson?_eq_some_iff.mpr written

/-- Listings are read back from their texts.  A listing is read from its own text, and from the
text of a document exactly if the document is one of the ways to write it.  So the order of
names, the choice between objects and arrays and the empty fields that are left out make no
difference at any level, and nothing else is accepted.  A document in which a record has an
unknown name, a repeated one or not all that it needs is malformed, wherever that record is. -/
theorem written_forms_read_back :
    (∀ listing : Listing, ofText listing.text = .ok listing) ∧
    (∀ (listing : Listing) (json : Json),
      json.IsDocument ∧ ofText json.text = .ok listing ↔ listing.WrittenAs json) ∧
    ∀ json : Json, json.IsDocument → Spoiled json →
      ∃ error, ofText json.text = .error error ∧ error.kind = .malformedProgram := by
  have forms (listing : Listing) (json : Json) :
      json.IsDocument ∧ ofText json.text = .ok listing ↔ listing.WrittenAs json := by
    constructor
    · rintro ⟨document, read⟩
      exact (ofText_text_eq_ok_iff document).mp read
    · intro written
      have document := written.fitsIn.document
      exact ⟨document, (ofText_text_eq_ok_iff document).mpr written⟩
  refine ⟨?_, forms, ?_⟩
  · intro listing
    exact ((forms listing listing.toJson).mpr listing.writtenAs_toJson).2
  · intro json document spoiled
    cases read : ofText json.text with
    | error error => exact ⟨error, rfl, ofText_error read⟩
    | ok listing => exact absurd spoiled ((ofText_text_eq_ok_iff document).mp read).not_spoiled

/-- A listing with the least order number and a name that has to be escaped, written with arrays,
with names the other way round and without what is empty, and a document with a repeated name. -/
theorem written_forms_read_back_mixed :
    let listing : Listing :=
      ⟨[⟨Int64.minValue, "LABEL", [⟨"label", ""⟩]⟩, ⟨2, "\"\\\n😀", []⟩]⟩
    let mixed : Json := .array [.array [
      .array [.integer (-9223372036854775808), .string "LABEL",
        .array [.object [("type", .string "label")]]],
      .object [("opcode", .string "\"\\\n😀"), ("order", .integer 2)]]]
    let repeated : Json := .object [("instructions", .array [
      .object [("order", .integer 1), ("order", .integer 1), ("opcode", .string "BREAK")]])]
    mixed.text = "[[[-9223372036854775808,\"LABEL\",[\x7b\"type\":\"label\"\x7d]]," ++
      "\x7b\"opcode\":\"\\\"\\\\\\n😀\",\"order\":2\x7d]]" ∧
    listing.WrittenAs mixed ∧ ofText mixed.text = .ok listing ∧
    repeated.IsDocument ∧ Spoiled repeated ∧
    ∃ error, ofText repeated.text = .error error ∧ error.kind = .malformedProgram := by
  intro listing mixed repeated
  rcases written_forms_read_back with ⟨-, forms, refused⟩
  have written : listing.WrittenAs mixed := by
    refine .full (.cons ?_ (.cons ?_ .nil)) .array
    · exact .full (.cons (.short rfl (.object (.refl _))) .nil) .array
    · exact .short rfl (.object (.swap _ _ _))
  have document : repeated.IsDocument := by
    apply IsDocument.object
    refine List.forall_mem_singleton.mpr (.array (List.forall_mem_singleton.mpr (.object ?_)))
    simp [IsDocument.integer, IsDocument.string]
  have spoiled : Spoiled repeated := by
    refine .inside List.mem_cons_self List.mem_cons_self (.here (Or.inr (Or.inl ?_)))
    decide
  exact ⟨by decide +kernel, written, ((forms listing mixed).mpr written).2, document, spoiled,
    refused repeated document spoiled⟩

end Listing
end FrameMachine
