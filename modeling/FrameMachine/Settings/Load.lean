import FrameMachine.Settings.Document
import FrameMachine.Settings.Environment

namespace FrameMachine

/-!
# Loading settings

A settings file is given or searched for, in a directory and then in its successive
parents.  The nearest file counts, even if it cannot be used.  The environment is
merged into what the file says, and what neither says has a default.
-/

/-- Settings: what the layers say together, and the directory of the settings file if
there was one. -/
structure Settings where
  layer : Layer
  root : Option Path
deriving DecidableEq

namespace Settings

/-- The name of settings files that are searched for. -/
def fileName : Path := ⟨"ippvm.toml"⟩

/-- The nearest of some directories that has a settings file. -/
def nearest? (files : FileSystem) (directories : List Path) : Option Path :=
  directories.find? fun directory => files.isFile (directory.join fileName)

/-- The settings of the nearest file above a directory, empty if there is none. -/
def search (files : FileSystem) (start : Path) : Except SettingsError Settings :=
  match nearest? files start.ancestors with
  | none => .ok ⟨.empty, none⟩
  | some root =>
      match Layer.ofFile files (root.join fileName) with
      | .ok layer => .ok ⟨layer, some root⟩
      | .error error => .error error

/-- The settings of a given file. -/
def ofFile (files : FileSystem) (file : Path) : Except SettingsError Settings :=
  match Layer.ofFile files file with
  | .ok layer => .ok ⟨layer, file.parent?⟩
  | .error error => .error error

/-- The settings with the environment merged into them. -/
def withEnvironment (environment : Environment) (settings : Settings) :
    Except SettingsError Settings :=
  match environment.layer with
  | .ok layer => .ok { settings with layer := settings.layer.merge layer }
  | .error error => .error error

/-- Where settings are taken from. -/
inductive Source where
  | file (path : Path)
  | above (directory : Path)
deriving DecidableEq

/-- The settings of a source alone. -/
def ofSource (files : FileSystem) : Source → Except SettingsError Settings
  | .file path => ofFile files path
  | .above directory => search files directory

/-- The settings of a source with those of the environment merged into them. -/
def load (files : FileSystem) (environment : Environment) (source : Source) :
    Except SettingsError Settings :=
  match ofSource files source with
  | .ok settings => settings.withEnvironment environment
  | .error error => .error error

/-- Whether the diagnostic instructions write. -/
def debugOutput (settings : Settings) : Bool :=
  settings.layer.debugOutput.getD true

/-- Whether statistics are kept. -/
def statistics (settings : Settings) : Bool :=
  settings.layer.statistics.getD false

/-- The file that is read from.  A relative path starts from the directory of the
settings file. -/
def inputPath (settings : Settings) : Option Path :=
  settings.layer.input.map fun input =>
    match settings.root with
    | some root => root.join input
    | none => input

end Settings
end FrameMachine
