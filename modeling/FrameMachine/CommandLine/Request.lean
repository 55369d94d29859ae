import FrameMachine.CommandLine.Arguments
import FrameMachine.Settings.Resolve

namespace FrameMachine
namespace CommandLine

/-!
# Requests

The arguments of the program ask for one of its commands, for help or for the
version.  Everything else is a misuse.
-/

/-- The commands. -/
inductive CommandName where
  | run
  | check
  | completions
  | help
deriving DecidableEq

namespace CommandName

/-- The name of a command. -/
def name : CommandName → String
  | .run => "run"
  | .check => "check"
  | .completions => "completions"
  | .help => "help"

/-- The command with a name.  Two commands may be called by their first letter. -/
def ofText? : String → Option CommandName
  | "run" => some .run
  | "r" => some .run
  | "check" => some .check
  | "c" => some .check
  | "completions" => some .completions
  | "help" => some .help
  | _ => none

/-- The switches of a command. -/
def switches : CommandName → List Switch
  | .run => [.input, .statistics, .quiet, .settings] ++ Switch.general
  | .check => .json :: Switch.general
  | .completions => Switch.general
  | .help => []

end CommandName

/-- The shells for which completions can be written. -/
inductive Shell where
  | bash
  | elvish
  | fish
  | powershell
  | zsh
deriving DecidableEq

/-- The shell with a name. -/
def Shell.ofText? : String → Option Shell
  | "bash" => some .bash
  | "elvish" => some .elvish
  | "fish" => some .fish
  | "powershell" => some .powershell
  | "zsh" => some .zsh
  | _ => none

/-- What the arguments ask for. -/
inductive Request where
  | run (file : Path) (flags : RunFlags)
  | check (file : Path) (asJson : Bool)
  | completions (shell : Shell)
  | help (command : Option CommandName)
  | version (command : Option CommandName)
  | misuse
deriving DecidableEq

namespace Request

/-- What a notice asks for. -/
def ofNotice (command : Option CommandName) : Notice → Request
  | .misuse => .misuse
  | .help => .help command
  | .version => .version command

/-- The operands that a command accepts. -/
def acceptable : CommandName → String → Bool
  | .completions, text => (Shell.ofText? text).isSome
  | _, text => text != ""

/-- The variable that names the settings file if no switch does. -/
def settingsFileName : String := "IPPVM_CONFIG"

/-- The settings file of a run: the value of the switch, else the variable of the
environment, which must not be empty. -/
def settingsFile (environment : Environment) (arguments : Arguments) :
    Except Notice (Option Path) :=
  match arguments.values.lookup .settings with
  | some file => .ok (some ⟨file⟩)
  | none =>
      match environment.value? settingsFileName with
      | some file => if file = "" then .error .misuse else .ok (some ⟨file⟩)
      | none => .ok none

/-- The request for a run. -/
def ofRunArguments (environment : Environment) (arguments : Arguments) : Request :=
  match arguments.operand, settingsFile environment arguments with
  | some file, .ok settingsFile => .run ⟨file⟩ {
      input := (arguments.values.lookup .input).map Path.mk
      statistics := Switch.statistics ∈ arguments.flags
      quiet := Switch.quiet ∈ arguments.flags
      settingsFile := settingsFile }
  | _, _ => .misuse

/-- The request made by the arguments of a command. -/
def ofCommandArguments (environment : Environment) (arguments : Arguments) :
    CommandName → Request
  | .run => ofRunArguments environment arguments
  | .check =>
      match arguments.operand with
      | some file => .check ⟨file⟩ (Switch.json ∈ arguments.flags)
      | none => .misuse
  | .completions =>
      match arguments.operand.bind Shell.ofText? with
      | some shell => .completions shell
      | none => .misuse
  | .help => .help none

/-- The request for help on a command, which may be named. -/
def ofHelpArguments : List String → Request
  | [] => .help none
  | [name] =>
      match CommandName.ofText? name with
      | some command => .help (some command)
      | none => .misuse
  | _ => .misuse

/-- The request made by a command and what follows it. -/
def ofCommand (environment : Environment) (command : CommandName) (rest : List String) :
    Request :=
  if command = .help then ofHelpArguments rest
  else
    match Arguments.empty.read command.switches (acceptable command) rest with
    | .ok arguments => ofCommandArguments environment arguments command
    | .error notice => ofNotice (some command) notice

/-- The request made by the arguments of the program: general switches, then a command
and its arguments. -/
def ofArguments (environment : Environment) : List String → Request
  | [] => .misuse
  | text :: rest =>
      let general := fun added : Except Notice (Arguments × Option Switch) =>
        match added with
        | .ok _ => ofArguments environment rest
        | .error notice => ofNotice none notice
      match Token.ofText text with
      | .terminator => .misuse
      | .long name => general (Arguments.empty.addLong Switch.general name)
      | .short letters => general (Arguments.empty.addShort Switch.general letters)
      | .operand =>
          match CommandName.ofText? text with
          | some command => ofCommand environment command rest
          | none => .misuse

end Request
end CommandLine
end FrameMachine
