import FrameMachine.Settings.Load

namespace FrameMachine

/-!
# Settings of one run

The flags of a command are the last word on how a program is run.  They can silence
the diagnostics, ask for statistics and name the file to read from, whatever the
settings say.
-/

/-- The flags of a run. -/
structure RunFlags where
  input : Option Path
  statistics : Bool
  quiet : Bool
  settingsFile : Option Path
deriving DecidableEq

/-- How a program is run.  Without an input file it reads the standard input. -/
structure RunSettings where
  debugOutput : Bool
  statistics : Bool
  input : Option Path
deriving DecidableEq

namespace RunFlags

/-- Where the settings are taken from: the file that the flags name, or the nearest
one above the working directory. -/
def source (flags : RunFlags) (environment : Environment) : Settings.Source :=
  match flags.settingsFile with
  | some file => .file file
  | none => .above environment.workingDirectory

/-- The flags applied to settings. -/
def apply (flags : RunFlags) (settings : Settings) : RunSettings where
  debugOutput := settings.debugOutput && !flags.quiet
  statistics := settings.statistics || flags.statistics
  input := flags.input.or settings.inputPath

/-- How a program is run with these flags. -/
def resolve (flags : RunFlags) (files : FileSystem) (environment : Environment) :
    Except SettingsError RunSettings :=
  match Settings.load files environment (flags.source environment) with
  | .ok settings => .ok (flags.apply settings)
  | .error error => .error error

end RunFlags
end FrameMachine
