import FrameMachine.Settings.Layer
import FrameMachine.Toml.Reader

namespace FrameMachine
namespace Layer

/-!
# Settings in documents

A settings file is a TOML document with the sections `runtime` and `io`.  There are
no other sections and no other entries.  A section may also be an array, which lists
all entries of the section in their order; what stands behind them is not looked at.
-/

/-- The truth value that a document gives. -/
def boolean? : Toml → Option Bool
  | .boolean b => some b
  | _ => none

/-- The path that a document gives. -/
def path? : Toml → Option Path
  | .string s => some ⟨s⟩
  | _ => none

/-- An entry that may be missing but not be of another type. -/
def entry? {α : Type} (read : Toml → Option α) (name : String)
    (entries : List (String × Toml)) : Option (Option α) :=
  match entries.lookup name with
  | none => some none
  | some item => (read item).map some

/-- The entries if all of them have one of the given names. -/
def onlyNamed (names : List String) (entries : List (String × Toml)) :
    Option (List (String × Toml)) :=
  if entries.all fun entry => names.contains entry.1 then some entries else none

/-- The section about the run. -/
def runSection? : Toml → Option RunSection
  | .table _ entries => do
      let entries ← onlyNamed ["debug_output", "stats"] entries
      let debugOutput ← entry? boolean? "debug_output" entries
      let statistics ← entry? boolean? "stats" entries
      return ⟨debugOutput, statistics⟩
  | .array (.boolean debugOutput :: .boolean statistics :: _) =>
      some ⟨some debugOutput, some statistics⟩
  | _ => none

/-- The section about the streams. -/
def streamSection? : Toml → Option StreamSection
  | .table _ entries => do
      let entries ← onlyNamed ["input"] entries
      let input ← entry? path? "input" entries
      return ⟨input⟩
  | .array (.string input :: _) => some ⟨some ⟨input⟩⟩
  | _ => none

/-- The layer that a document holds. -/
def ofDocument? (entries : List (String × Toml)) : Option Layer := do
  let entries ← onlyNamed ["runtime", "io"] entries
  let run ← entry? runSection? "runtime" entries
  let streams ← entry? streamSection? "io" entries
  return ⟨run, streams⟩

/-- The layer written by the text of a file. -/
def ofText (file : Path) (text : String) : Except SettingsError Layer :=
  match (Toml.ofText? text).bind ofDocument? with
  | none => .error (.malformed file)
  | some layer =>
      match layer.validate with
      | .ok () => .ok layer
      | .error error => .error error

/-- The layer that a file holds. -/
def ofFile (files : FileSystem) (file : Path) : Except SettingsError Layer :=
  match files.readText file with
  | .ok text => ofText file text
  | .error .notFound => .error (.notFound file)
  | .error cause => .error (.unreadable cause)

end Layer
end FrameMachine
