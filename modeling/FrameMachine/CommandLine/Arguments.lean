namespace FrameMachine
namespace CommandLine

/-!
# Arguments

The arguments of a command are switches and operands.  They are read from the left,
and the first one that ends the reading decides: a mistake, or a switch that asks for
help or for the version.
-/

/-- A switch. -/
inductive Switch where
  | verbose
  | help
  | version
  | input
  | statistics
  | quiet
  | settings
  | json
deriving DecidableEq

namespace Switch

/-- The name of a switch behind two dashes. -/
def long : Switch → String
  | .verbose => "verbose"
  | .help => "help"
  | .version => "version"
  | .input => "input"
  | .statistics => "stats"
  | .quiet => "no-debug-output"
  | .settings => "config"
  | .json => "json"

/-- The letter of a switch behind one dash. -/
def short? : Switch → Option Char
  | .verbose => some 'v'
  | .help => some 'h'
  | .version => some 'V'
  | .input => some 'i'
  | .settings => some 'c'
  | _ => none

/-- Whether a value belongs to the switch. -/
def takesValue : Switch → Bool
  | .input => true
  | .settings => true
  | _ => false

/-- The switches that every command has. -/
def general : List Switch := [.verbose, .help, .version]

end Switch

/-- What ends the reading of arguments. -/
inductive Notice where
  | misuse
  | help
  | version
deriving DecidableEq

/-- The arguments read so far. -/
structure Arguments where
  flags : List Switch
  values : List (Switch × String)
  operand : Option String
deriving DecidableEq

namespace Arguments

/-- No arguments. -/
def empty : Arguments := ⟨[], [], none⟩

/-- Add a switch without a value.  Only the switch for verbosity may be repeated. -/
def addFlag (arguments : Arguments) : Switch → Except Notice Arguments
  | .help => .error .help
  | .version => .error .version
  | .verbose => .ok { arguments with flags := .verbose :: arguments.flags }
  | switch =>
      if switch ∈ arguments.flags then .error .misuse
      else .ok { arguments with flags := switch :: arguments.flags }

/-- Add a switch with its value, which must not be empty. -/
def addValue (arguments : Arguments) (switch : Switch) (value : String) :
    Except Notice Arguments :=
  if value = "" ∨ (arguments.values.lookup switch).isSome then .error .misuse
  else .ok { arguments with values := (switch, value) :: arguments.values }

/-- Add an operand.  A command takes one, and only if it is acceptable. -/
def addOperand (arguments : Arguments) (acceptable : String → Bool) (operand : String) :
    Except Notice Arguments :=
  if arguments.operand.isSome ∨ ¬ acceptable operand then .error .misuse
  else .ok { arguments with operand := some operand }

/-- Add a switch given by its name, together with the value behind an equals sign.
A switch whose value is still to come is returned. -/
def addLong (arguments : Arguments) (known : List Switch) (text : List Char) :
    Except Notice (Arguments × Option Switch) :=
  let name := String.ofList (text.takeWhile (· != '='))
  let value := text.dropWhile (· != '=')
  match known.find? fun switch => switch.long == name with
  | none => .error .misuse
  | some switch =>
      match switch.takesValue, value with
      | true, [] => .ok (arguments, some switch)
      | true, _ :: value => (arguments.addValue switch (String.ofList value)).map (·, none)
      | false, [] => (arguments.addFlag switch).map (·, none)
      | false, _ :: _ => .error .misuse

/-- A value that directly follows the letter of its switch, with or without an equals
sign. -/
def attachedValue : List Char → List Char
  | '=' :: value => value
  | value => value

/-- Add switches given by their letters.  What follows the letter of a switch that
takes a value is the value; if nothing follows, the switch is returned. -/
def addShort (known : List Switch) : Arguments → List Char →
    Except Notice (Arguments × Option Switch)
  | arguments, [] => .ok (arguments, none)
  | arguments, letter :: rest =>
      match known.find? fun switch => switch.short? == some letter with
      | none => .error .misuse
      | some switch =>
          match switch.takesValue, rest with
          | true, [] => .ok (arguments, some switch)
          | true, _ =>
              (arguments.addValue switch (String.ofList (attachedValue rest))).map (·, none)
          | false, _ =>
              match arguments.addFlag switch with
              | .ok arguments => addShort known arguments rest
              | .error notice => .error notice

end Arguments

/-- What a single argument looks like.  A lone dash is an operand. -/
inductive Token where
  | terminator
  | long (text : List Char)
  | short (letters : List Char)
  | operand
deriving DecidableEq

/-- The look of an argument. -/
def Token.ofText (text : String) : Token :=
  match text.toList with
  | ['-', '-'] => .terminator
  | '-' :: '-' :: text => .long text
  | '-' :: letter :: letters => .short (letter :: letters)
  | _ => .operand

namespace Arguments

/-- Read operands only. -/
def readOperands (acceptable : String → Bool) :
    Arguments → List String → Except Notice Arguments
  | arguments, [] => .ok arguments
  | arguments, text :: rest =>
      match arguments.addOperand acceptable text with
      | .ok arguments => readOperands acceptable arguments rest
      | .error notice => .error notice

/-- Add an argument that is not the terminator.  A switch whose value is still to come
is returned. -/
def addToken (known : List Switch) (acceptable : String → Bool) (arguments : Arguments)
    (text : String) : Except Notice (Arguments × Option Switch) :=
  match Token.ofText text with
  | .long name => arguments.addLong known name
  | .short letters => addShort known arguments letters
  | _ => (arguments.addOperand acceptable text).map (·, none)

/-- Read arguments.  A switch that takes a value may have it in the next argument,
unless that looks like a switch.  Two dashes end the switches. -/
def read (known : List Switch) (acceptable : String → Bool) :
    Arguments → List String → Except Notice Arguments
  | arguments, [] => .ok arguments
  | arguments, text :: rest =>
      if Token.ofText text = Token.terminator then readOperands acceptable arguments rest
      else
        match addToken known acceptable arguments text with
        | .error notice => .error notice
        | .ok (arguments, none) => read known acceptable arguments rest
        | .ok (arguments, some switch) =>
            match rest with
            | [] => .error .misuse
            | value :: rest =>
                if Token.ofText value = Token.operand then
                  match arguments.addValue switch value with
                  | .ok arguments => read known acceptable arguments rest
                  | .error notice => .error notice
                else .error .misuse

end Arguments
end CommandLine
end FrameMachine
