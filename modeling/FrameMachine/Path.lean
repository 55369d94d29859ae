namespace FrameMachine

/-!
# Paths

A path is a text.  Joining and taking the parent work on the text alone: nothing is
looked up and nothing is normalized, so the paths in messages are the ones that were
given.  Only a trailing slash and a single dot between slashes are passed over when
the last component is looked for.
-/

/-- A path. -/
structure Path where
  text : String
deriving DecidableEq

namespace Path

/-- Whether the path starts at the root. -/
def isAbsolute (path : Path) : Bool :=
  path.text.toList.head? == some '/'

/-- The path that leads on from a base.  An absolute path leads away from it. -/
def join (base path : Path) : Path :=
  if path.isAbsolute then path
  else if base.text.toList.getLast?.all (· == '/') then ⟨base.text ++ path.text⟩
  else ⟨base.text ++ "/" ++ path.text⟩

/-- The part of a path that is never dropped, and the rest: the root, or a dot that
stands first. -/
def anchor : List Char → List Char × List Char
  | '/' :: rest => (['/'], rest)
  | ['.'] => (['.'], [])
  | '.' :: '/' :: rest => (['.'], '/' :: rest)
  | text => ([], text)

/-- A path read backwards, without the slashes and single dots it ends in. -/
def dropHollow : List Char → List Char
  | '/' :: rest => dropHollow rest
  | '.' :: '/' :: rest => dropHollow rest
  | ['.'] => []
  | text => text

/-- A path read backwards, without its last component and the slash before it. -/
def dropComponent (text : List Char) : List Char :=
  (text.dropWhile (· != '/')).drop 1

/-- The path without its last component.  The root and the empty path have no
parent; the parent of a single component is the empty path. -/
def parent? (path : Path) : Option Path :=
  let (fixed, body) := anchor path.text.toList
  match fixed, dropHollow body.reverse with
  | ['.'], [] => some ⟨""⟩
  | _, [] => none
  | fixed, body => some ⟨String.ofList (fixed ++ (dropHollow (dropComponent body)).reverse)⟩

/-- The path and its successive parents, at most as many as the bound. -/
def ancestorsWithin : (bound : Nat) → Path → List Path
  | 0, _ => []
  | bound + 1, path =>
      path :: match path.parent? with
        | some parent => ancestorsWithin bound parent
        | none => []

/-- The path and its successive parents.  Every parent is shorter than its child,
so the length of the path bounds their number. -/
def ancestors (path : Path) : List Path :=
  ancestorsWithin (path.text.length + 1) path

end Path
end FrameMachine
