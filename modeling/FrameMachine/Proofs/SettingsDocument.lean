import FrameMachine.Settings.Document

namespace FrameMachine
namespace Layer

/-!
# What a settings document says

A document is a table, and so are its two sections.  A table says nothing but what the entries
that it may have say, each of which is there with a value of the right kind or is not there.
`Describes` puts this down entry by entry, together with the second form of a section, which is an
array.  The readers of documents are not mentioned.  They find the layer that is described, and
find none if there is none.
-/

section Entry

variable {α : Type} {Reads : Toml → α → Prop} {read : Toml → Option α}
  {entries : List (String × Toml)} {name : String} {given : Option α}

/-- What a table says in one entry: nothing if there is no such entry, and otherwise what the item
in it stands for. -/
inductive Says (Reads : Toml → α → Prop) (entries : List (String × Toml)) (name : String) :
    Option α → Prop
  | nothing (absent : entries.lookup name = none) : Says Reads entries name none
  | value {item : Toml} {value : α} (present : entries.lookup name = some item)
      (means : Reads item value) : Says Reads entries name (some value)

theorem entry?_eq_some_iff (reads : ∀ item value, read item = some value ↔ Reads item value) :
    entry? read name entries = some given ↔ Says Reads entries name given := by
  unfold entry?
  cases found : entries.lookup name with
  | none =>
      constructor
      · rintro ⟨⟩
        exact .nothing found
      · intro stated
        cases stated with
        | nothing absent => rfl
        | value present means => rw [found] at present; cases present
  | some item =>
      constructor
      · intro mapped
        rcases Option.map_eq_some_iff.mp mapped with ⟨value, means, rfl⟩
        exact .value found ((reads item value).mp means)
      · intro stated
        cases stated with
        | nothing absent => rw [found] at absent; cases absent
        | value present means =>
            cases found.symm.trans present
            exact Option.map_eq_some_iff.mpr ⟨_, (reads _ _).mpr means, rfl⟩

theorem onlyNamed_eq_some_iff {names : List String} {kept : List (String × Toml)} :
    onlyNamed names entries = some kept ↔
      (∀ entry ∈ entries, entry.1 ∈ names) ∧ kept = entries := by
  have all : (entries.all fun entry => names.contains entry.1) = true ↔
      ∀ entry ∈ entries, entry.1 ∈ names := by
    simp only [List.all_eq_true, List.contains_iff_mem]
  rw [onlyNamed, Option.ite_none_right_eq_some, all, Option.some_inj, eq_comm]

end Entry

/-! ## Sections -/

/-- An item that stands for a truth value. -/
def IsBoolean (item : Toml) (b : Bool) : Prop := item = .boolean b

/-- An item that stands for a path. -/
def IsPath (item : Toml) (path : Path) : Prop := item = .string path.text

theorem boolean?_eq_some_iff (item : Toml) (b : Bool) :
    boolean? item = some b ↔ IsBoolean item b := by
  cases item <;> simp [boolean?, IsBoolean]

theorem path?_eq_some_iff (item : Toml) (path : Path) :
    path? item = some path ↔ IsPath item path := by
  cases item with
  | string s =>
      rcases path with ⟨text⟩
      simp [path?, IsPath]
  | _ => simp [path?, IsPath]

/-- The section about the run: a table with at most the two entries, or an array that starts with
both values. -/
inductive DescribesRun : Toml → RunSection → Prop
  | table {origin : Toml.Origin} {entries : List (String × Toml)} {debugOutput stats : Option Bool}
      (known : ∀ entry ∈ entries, entry.1 ∈ ["debug_output", "stats"])
      (debugOutputEntry : Says IsBoolean entries "debug_output" debugOutput)
      (statsEntry : Says IsBoolean entries "stats" stats) :
      DescribesRun (.table origin entries) ⟨debugOutput, stats⟩
  | array {debugOutput stats : Bool} {rest : List Toml} :
      DescribesRun (.array (.boolean debugOutput :: .boolean stats :: rest))
        ⟨some debugOutput, some stats⟩

/-- The section about the streams: a table with at most the one entry, or an array that starts
with its value. -/
inductive DescribesStreams : Toml → StreamSection → Prop
  | table {origin : Toml.Origin} {entries : List (String × Toml)} {input : Option Path}
      (known : ∀ entry ∈ entries, entry.1 ∈ ["input"])
      (inputEntry : Says IsPath entries "input" input) :
      DescribesStreams (.table origin entries) ⟨input⟩
  | array {input : String} {rest : List Toml} :
      DescribesStreams (.array (.string input :: rest)) ⟨some ⟨input⟩⟩

theorem runSection?_table (origin : Toml.Origin) {entries : List (String × Toml)}
    {described : RunSection} :
    runSection? (.table origin entries) = some described ↔
      (∀ entry ∈ entries, entry.1 ∈ ["debug_output", "stats"]) ∧
      Says IsBoolean entries "debug_output" described.debugOutput ∧
      Says IsBoolean entries "stats" described.statistics := by
  simp only [runSection?, Option.bind_eq_bind, Option.bind_eq_some_iff, onlyNamed_eq_some_iff,
    entry?_eq_some_iff boolean?_eq_some_iff]
  constructor
  · rintro ⟨kept, ⟨known, rfl⟩, debugOutput, debugOutputEntry, stats, statsEntry, ⟨⟩⟩
    exact ⟨known, debugOutputEntry, statsEntry⟩
  · rintro ⟨known, debugOutputEntry, statsEntry⟩
    exact ⟨entries, ⟨known, rfl⟩, _, debugOutputEntry, _, statsEntry, rfl⟩

theorem runSection?_eq_some_iff (item : Toml) (described : RunSection) :
    runSection? item = some described ↔ DescribesRun item described := by
  constructor
  · intro read
    unfold runSection? at read
    split at read
    · rename_i origin entries
      rcases (runSection?_table origin).mp read with ⟨known, debugOutputEntry, statsEntry⟩
      exact .table known debugOutputEntry statsEntry
    · cases read
      exact .array
    · cases read
  · intro describes
    cases describes with
    | table known debugOutputEntry statsEntry =>
        exact (runSection?_table _).mpr ⟨known, debugOutputEntry, statsEntry⟩
    | array => rfl

theorem streamSection?_table (origin : Toml.Origin) {entries : List (String × Toml)}
    {described : StreamSection} :
    streamSection? (.table origin entries) = some described ↔
      (∀ entry ∈ entries, entry.1 ∈ ["input"]) ∧
      Says IsPath entries "input" described.input := by
  simp only [streamSection?, Option.bind_eq_bind, Option.bind_eq_some_iff, onlyNamed_eq_some_iff,
    entry?_eq_some_iff path?_eq_some_iff]
  constructor
  · rintro ⟨kept, ⟨known, rfl⟩, input, inputEntry, ⟨⟩⟩
    exact ⟨known, inputEntry⟩
  · rintro ⟨known, inputEntry⟩
    exact ⟨entries, ⟨known, rfl⟩, _, inputEntry, rfl⟩

theorem streamSection?_eq_some_iff (item : Toml) (described : StreamSection) :
    streamSection? item = some described ↔ DescribesStreams item described := by
  constructor
  · intro read
    unfold streamSection? at read
    split at read
    · rename_i origin entries
      rcases (streamSection?_table origin).mp read with ⟨known, inputEntry⟩
      exact .table known inputEntry
    · cases read
      exact .array
    · cases read
  · intro describes
    cases describes with
    | table known inputEntry => exact (streamSection?_table _).mpr ⟨known, inputEntry⟩
    | array => rfl

/-! ## Documents -/

/-- The document has at most the two sections, and the layer is what they say. -/
structure Describes (entries : List (String × Toml)) (layer : Layer) : Prop where
  known : ∀ entry ∈ entries, entry.1 ∈ ["runtime", "io"]
  run : Says DescribesRun entries "runtime" layer.run
  streams : Says DescribesStreams entries "io" layer.streams

theorem ofDocument?_eq_some_iff {entries : List (String × Toml)} {layer : Layer} :
    ofDocument? entries = some layer ↔ Describes entries layer := by
  simp only [ofDocument?, Option.bind_eq_bind, Option.bind_eq_some_iff, onlyNamed_eq_some_iff,
    entry?_eq_some_iff runSection?_eq_some_iff, entry?_eq_some_iff streamSection?_eq_some_iff]
  constructor
  · rintro ⟨kept, ⟨known, rfl⟩, run, runEntry, streams, streamsEntry, ⟨⟩⟩
    exact ⟨known, runEntry, streamsEntry⟩
  · rintro ⟨known, runEntry, streamsEntry⟩
    exact ⟨entries, ⟨known, rfl⟩, layer.run, runEntry, layer.streams, streamsEntry, rfl⟩

/-- The text is a document that describes the layer. -/
def Written (text : String) (layer : Layer) : Prop :=
  ∃ entries, Toml.ofText? text = some entries ∧ Describes entries layer

theorem written_iff {text : String} {layer : Layer} :
    Written text layer ↔ (Toml.ofText? text).bind ofDocument? = some layer := by
  simp only [Written, Option.bind_eq_some_iff, ofDocument?_eq_some_iff]

theorem not_written_iff {text : String} :
    (∀ layer, ¬ Written text layer) ↔ (Toml.ofText? text).bind ofDocument? = none := by
  simp only [written_iff, Option.eq_none_iff_forall_ne_some, ne_eq]

/-- The empty path is the one thing that a layer must not say. -/
theorem validate_eq (layer : Layer) :
    layer.validate =
      if layer.streams = some ⟨some ⟨""⟩⟩ then .error (.badValue .emptyInput) else .ok () := by
  have same : layer.input = some ⟨""⟩ ↔ layer.streams = some ⟨some ⟨""⟩⟩ := by
    constructor
    · intro named
      rcases Option.bind_eq_some_iff.mp named with ⟨⟨input⟩, present, rfl⟩
      exact present
    · intro present
      rw [input, present]
      rfl
  simp only [validate, same]

end Layer
end FrameMachine
