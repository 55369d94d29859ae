import FrameMachine.Settings.Error

namespace FrameMachine

/-!
# Layers of settings

A layer is what one source says: a settings file or the environment.  It has
optional sections with optional entries.  A later layer is merged into an earlier
one and wins wherever it says something.
-/

/-- What a layer says about the run. -/
structure RunSection where
  debugOutput : Option Bool
  statistics : Option Bool
deriving DecidableEq

/-- What a layer says about the streams. -/
structure StreamSection where
  input : Option Path
deriving DecidableEq

/-- One layer of settings. -/
structure Layer where
  run : Option RunSection
  streams : Option StreamSection
deriving DecidableEq

namespace Layer

/-- The layer that says nothing. -/
def empty : Layer := ⟨none, none⟩

/-- Whether the diagnostic instructions write. -/
def debugOutput (layer : Layer) : Option Bool :=
  layer.run.bind RunSection.debugOutput

/-- Whether statistics are kept. -/
def statistics (layer : Layer) : Option Bool :=
  layer.run.bind RunSection.statistics

/-- The file that is read from. -/
def input (layer : Layer) : Option Path :=
  layer.streams.bind StreamSection.input

/-- The entries of a section with those of a later one merged into them. -/
def mergeRun (earlier : Option RunSection) : Option RunSection → Option RunSection
  | none => earlier
  | some later =>
      let entries := earlier.getD ⟨none, none⟩
      some ⟨later.debugOutput.or entries.debugOutput, later.statistics.or entries.statistics⟩

/-- A layer with a later one merged into it.  A section about streams that names no
file leaves no trace. -/
def merge (earlier later : Layer) : Layer where
  run := mergeRun earlier.run later.run
  streams := match later.input with
    | some input => some ⟨some input⟩
    | none => earlier.streams

/-- A layer must not name the empty path. -/
def validate (layer : Layer) : Except SettingsError Unit :=
  if layer.input = some ⟨""⟩ then .error (.badValue .emptyInput) else .ok ()

end Layer
end FrameMachine
