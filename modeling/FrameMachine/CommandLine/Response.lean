import FrameMachine.CommandLine.Request
import FrameMachine.Json.Writer
import FrameMachine.Listing.Assembly
import FrameMachine.Machine.Run

namespace FrameMachine
namespace CommandLine

/-!
# Responses

A request is answered with an exit code and two texts.  What a command needs to read
is read in a fixed order: the settings, the program, the input.  The first of them
that fails ends the command.
-/

/-- The answer to a request. -/
structure Response where
  exitCode : Nat
  output : String
  diagnostics : String
deriving DecidableEq

/-- Why a command could not do its work. -/
inductive CommandError where
  | settings (file : Option Path) (cause : SettingsError)
  | unreadable (file : Path) (cause : FileError)
deriving DecidableEq

namespace CommandError

/-- The text of an error. -/
def message : CommandError → String
  | .settings (some file) cause =>
      "Failed to load config: " ++ file.text ++ ": " ++ cause.fullMessage
  | .settings none cause =>
      "Failed to load " ++ Settings.fileName.text ++ ": " ++ cause.fullMessage
  | .unreadable file cause => "cannot read " ++ file.text ++ ": " ++ cause.message

/-- The exit code of an error. -/
def exitCode : CommandError → Nat
  | .settings _ _ => 99
  | .unreadable _ _ => 11

/-- The response to a request that failed. -/
def response (error : CommandError) : Response :=
  ⟨error.exitCode, "", "error: " ++ error.message ++ "\n"⟩

end CommandError

/-- The exit code of a misuse. -/
def misuseExitCode : Nat := 10

/-- The name of the program. -/
def programName : String := "ippvm"

/-- The name under which a command gives its version. -/
def versionName : Option CommandName → String
  | none => programName
  | some command => programName ++ "-" ++ command.name

/-- The version of the program. -/
def programVersion : String := "0.1.0"

/-- How the program, or one of its commands, is used. -/
def usage : Option CommandName → String
  | some .run =>
      "Usage: ippvm run [-i FILE] [--stats] [--no-debug-output] [-c FILE] FILE\n"
  | some .check => "Usage: ippvm check [--json] FILE\n"
  | some .completions => "Usage: ippvm completions SHELL\n"
  | some .help => "Usage: ippvm help [COMMAND]\n"
  | none => "Usage: ippvm [-v] run|check|completions|help ...\n"

/-- The words that a shell completes behind the name of the program. -/
def completionWords : List String := ["run", "check", "completions", "help"]

/-- The script that makes a shell complete the commands. -/
def completionScript (shell : Shell) : String :=
  let words := " ".intercalate completionWords
  match shell with
  | .bash => "complete -W '" ++ words ++ "' ippvm\n"
  | .elvish => "set edit:completion:arg-completer[ippvm] = \x7b|@a| put " ++ words ++ " \x7d\n"
  | .fish => "complete -c ippvm -f -a '" ++ words ++ "'\n"
  | .powershell =>
      "Register-ArgumentCompleter -Native -CommandName ippvm -ScriptBlock \x7b -split '" ++
        words ++ "' \x7d\n"
  | .zsh => "#compdef ippvm\n_arguments '1:command:(" ++ words ++ ")'\n"

/-- The line that reports something about a file. -/
def fileLine (file : Path) (message : String) : String :=
  file.text ++ ": " ++ message ++ "\n"

/-- The text of a program file. -/
def readProgram (files : FileSystem) (file : Path) : Except CommandError String :=
  match files.readText file with
  | .ok text => .ok text
  | .error cause => .error (.unreadable file cause)

/-- The stream that a program reads. -/
def inputOf (files : FileSystem) (standardInput : InputStream) :
    Option Path → Except CommandError InputStream
  | none => .ok standardInput
  | some path =>
      match files.openInput path with
      | .ok stream => .ok stream
      | .error cause => .error (.unreadable path cause)

/-- The machine that runs a program as the settings say. -/
def machineOf (settings : RunSettings) (program : Program) (input : InputStream) : Machine :=
  let machine := Machine.load program (.initial input .unlimited .unlimited)
  let machine := { machine with debugOutput := settings.debugOutput }
  if settings.statistics then machine.enableProfile else machine

/-- The line that reports a fault, if a run ended with one. -/
def faultLine (file : Path) : Status → String
  | .faulted fault => fileLine file fault.message
  | _ => ""

/-- The response to a run that has ended. -/
def ofEnding (file : Path) (result : Status) (machine : Machine) : Response where
  exitCode := result.exitCode
  output := machine.state.output.text
  diagnostics :=
    machine.state.diagnostics.text ++ faultLine file result ++ machine.report?.getD ""

/-- Run a program. -/
def run (files : FileSystem) (environment : Environment) (standardInput : InputStream)
    (file : Path) (flags : RunFlags) : Except CommandError Response :=
  match flags.resolve files environment with
  | .error cause => .error (.settings flags.settingsFile cause)
  | .ok settings =>
      match readProgram files file with
      | .error error => .error error
      | .ok source =>
          match Program.ofText source with
          | .error error => .ok ⟨error.exitCode, "", fileLine file error.message⟩
          | .ok program =>
              match inputOf files standardInput settings.input with
              | .error error => .error error
              | .ok input =>
                  let (result, machine) := (machineOf settings program input).run
                  .ok (ofEnding file result machine)

/-- What is reported about a valid program. -/
def validReport (file : Path) (asJson : Bool) (program : Program) : String :=
  if asJson then
    (Json.object [("file", .string file.text), ("instructions", .integer program.size),
      ("labels", .array (program.labelNames.map Json.string)),
      ("valid", .bool true)]).prettyText ++ "\n"
  else
    fileLine file ("ok (" ++ toString program.size ++ " instructions, " ++
      toString program.labels.size ++ " labels)")

/-- The response about an invalid program. -/
def invalidResponse (file : Path) (asJson : Bool) (error : Error) : Response :=
  if asJson then
    let report := Json.object [("error", .string error.message),
      ("exit_code", .integer error.exitCode), ("file", .string file.text),
      ("valid", .bool false)]
    ⟨error.exitCode, report.prettyText ++ "\n", ""⟩
  else ⟨error.exitCode, "", fileLine file error.message⟩

/-- Check a program without running it. -/
def check (files : FileSystem) (file : Path) (asJson : Bool) : Except CommandError Response :=
  match readProgram files file with
  | .error error => .error error
  | .ok source =>
      match Program.ofText source with
      | .ok program => .ok ⟨0, validReport file asJson program, ""⟩
      | .error error => .ok (invalidResponse file asJson error)

/-- The response to a request. -/
def respond (files : FileSystem) (environment : Environment) (standardInput : InputStream)
    (request : Request) : Response :=
  let settle := fun result : Except CommandError Response =>
    match result with
    | .ok response => response
    | .error error => error.response
  match request with
  | .run file flags => settle (run files environment standardInput file flags)
  | .check file asJson => settle (check files file asJson)
  | .completions shell => ⟨0, completionScript shell, ""⟩
  | .help command => ⟨0, usage command, ""⟩
  | .version command => ⟨0, versionName command ++ " " ++ programVersion ++ "\n", ""⟩
  | .misuse => ⟨misuseExitCode, "", usage none⟩

/-- The files that answering a request may look at, apart from the input of a run. -/
def filesOf (environment : Environment) : Request → List Path
  | .run file flags =>
      let settings := match flags.source environment with
        | .file path => [path]
        | .above directory => directory.ancestors.map fun d => d.join Settings.fileName
      file :: settings
  | .check file _ => [file]
  | _ => []

/-- The file that a run reads from, if it gets that far. -/
def inputFile? (files : FileSystem) (environment : Environment) : Request → Option Path
  | .run _ flags =>
      match flags.resolve files environment with
      | .ok settings => settings.input
      | .error _ => none
  | _ => none

end CommandLine
end FrameMachine
