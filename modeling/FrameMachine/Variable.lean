namespace FrameMachine

/-!
# Variables

A variable is named together with the frame it lives in: `GF@x` is the `x` of
the global frame, `LF@x` that of the topmost local frame and `TF@x` that of the
temporary frame.
-/

/-- The three scopes. -/
inductive Scope where
  | global
  | localTop
  | temporary
deriving DecidableEq

namespace Scope

/-- The name of a scope in programs. -/
def name : Scope → String
  | .global => "GF"
  | .localTop => "LF"
  | .temporary => "TF"

/-- The scope with the given name. -/
def ofName? : String → Option Scope
  | "GF" => some .global
  | "LF" => some .localTop
  | "TF" => some .temporary
  | _ => none

end Scope

/-- A variable: its scope and its name there. -/
structure Variable where
  scope : Scope
  name : String
deriving DecidableEq

/-- The text of a variable in programs and messages. -/
def Variable.text (v : Variable) : String :=
  v.scope.name ++ "@" ++ v.name

end FrameMachine
