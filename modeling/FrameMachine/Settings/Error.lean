import FrameMachine.FileSystem

namespace FrameMachine

/-!
# Errors of settings

Settings come from a file and from environment variables.  A file can be missing,
unreadable or malformed; a value can be one that its place does not take.
-/

/-- A value that its place does not take. -/
inductive BadSetting where
  | emptyInput
  | notBoolean (name text : String)
deriving DecidableEq

namespace BadSetting

/-- The place of the value. -/
def place : BadSetting → String
  | .emptyInput => "io.input"
  | .notBoolean name _ => name

/-- Why the place does not take the value. -/
def reason : BadSetting → String
  | .emptyInput => "path cannot be empty"
  | .notBoolean _ text => "expected a boolean, got '" ++ text ++ "'"

end BadSetting

/-- Why settings cannot be had. -/
inductive SettingsError where
  | notFound (file : Path)
  | unreadable (cause : FileError)
  | malformed (file : Path)
  | badValue (value : BadSetting)
deriving DecidableEq

namespace SettingsError

/-- The text of an error. -/
def message : SettingsError → String
  | .notFound file => "Configuration file not found: " ++ file.text
  | .unreadable cause => "Failed to read configuration file: " ++ cause.message
  | .malformed file => "Invalid TOML syntax in " ++ file.text ++ ": TOML parse error"
  | .badValue value => "Invalid value for '" ++ value.place ++ "': " ++ value.reason

/-- The text of an error followed by that of its cause, if another error caused
it. -/
def fullMessage (error : SettingsError) : String :=
  match error with
  | .unreadable cause => error.message ++ ": " ++ cause.message
  | _ => error.message

end SettingsError
end FrameMachine
