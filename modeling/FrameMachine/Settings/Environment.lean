import FrameMachine.Settings.Layer
import FrameMachine.Text.Blank
import FrameMachine.Text.LowerCase

namespace FrameMachine

/-!
# Settings in the environment

The environment of a process is its working directory and its variables.  Three of
the variables are settings.
-/

/-- The environment of a process. -/
structure Environment where
  workingDirectory : Path
  bindings : List (String × String)
deriving DecidableEq

namespace Environment

/-- The value of a variable. -/
def value? (environment : Environment) (name : String) : Option String :=
  environment.bindings.lookup name

/-- The words that stand for true. -/
def trueWords : List String := ["true", "1", "yes", "on"]

/-- The words that stand for false. -/
def falseWords : List String := ["false", "0", "no", "off", ""]

/-- The truth value of a variable.  Blanks around the word and the case of its
letters do not matter. -/
def boolean (name text : String) : Except SettingsError Bool :=
  let word := String.ofList (Text.lower (Text.trim text.toList))
  if word ∈ trueWords then .ok true
  else if word ∈ falseWords then .ok false
  else .error (.badValue (.notBoolean name word))

/-- The truth value of a variable that may be unset. -/
def boolean? (environment : Environment) (name : String) : Except SettingsError (Option Bool) :=
  match environment.value? name with
  | none => .ok none
  | some text =>
      match boolean name text with
      | .ok b => .ok (some b)
      | .error error => .error error

/-- The path of a variable, which starts from the working directory.  An empty
variable counts as unset. -/
def path? (environment : Environment) (name : String) : Option Path :=
  match environment.value? name with
  | none => none
  | some "" => none
  | some text => some (environment.workingDirectory.join ⟨text⟩)

/-- The variable that says whether the diagnostic instructions write. -/
def debugOutputName : String := "IPPVM_DEBUG_OUTPUT"

/-- The variable that says whether statistics are kept. -/
def statisticsName : String := "IPPVM_STATS"

/-- The variable that names the file to read from. -/
def inputName : String := "IPPVM_INPUT"

/-- The layer of the environment.  A section is there if one of its variables is
set. -/
def layer (environment : Environment) : Except SettingsError Layer :=
  match environment.boolean? debugOutputName with
  | .error error => .error error
  | .ok debugOutput =>
      match environment.boolean? statisticsName with
      | .error error => .error error
      | .ok statistics => .ok {
          run := if debugOutput.isSome || statistics.isSome then some ⟨debugOutput, statistics⟩
            else none
          streams := (environment.path? inputName).map fun input => ⟨some input⟩ }

end Environment
end FrameMachine
