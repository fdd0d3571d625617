import CallScript.Text.Quoted

/-!
# Paths

A path is a root, if it has one, and the names that lead to its end.  Empty names and single dots
are dropped when a path is read, so the empty path is the working directory.
-/

namespace CallScript
namespace Disk

/-- A path: the text of its root and the names below it. -/
structure Path where
  root : String
  names : List String
  deriving Repr, DecidableEq, Inhabited

namespace Path

/-- The pieces of a text between slashes. -/
def pieces : List Char → List (List Char)
  | [] => [[]]
  | c :: rest =>
      match pieces rest with
      | [] => [[c]]
      | first :: others => if c = '/' then [] :: first :: others else (c :: first) :: others

/-- Holds of the names that a path keeps. -/
def isKept (name : List Char) : Bool :=
  name ≠ [] && name ≠ ['.']

/-- The names in a text. -/
def namesOf (text : String) : List String :=
  ((pieces text.toList).filter isKept).map String.ofList

/-- The root of a text: exactly two leading slashes stay two, any other number becomes one. -/
def rootOf (text : String) : String :=
  match text.toList with
  | '/' :: '/' :: '/' :: _ => "/"
  | '/' :: '/' :: _ => "//"
  | '/' :: _ => "/"
  | _ => ""

/-- The path that a text names. -/
def ofText (text : String) : Path :=
  ⟨rootOf text, namesOf text⟩

/-- The text of a path; the working directory is a single dot. -/
def text (p : Path) : String :=
  let body := p.root ++ String.intercalate "/" p.names
  if body.isEmpty then "." else body

/-- The path that a text names inside a directory. -/
def join (p : Path) (name : String) : Path :=
  if (rootOf name).isEmpty then
    { p with names := p.names ++ namesOf name }
  else
    ofText name

/-- The directory that holds the last name. -/
def parent (p : Path) : Path :=
  { p with names := p.names.dropLast }

end Path
end Disk
end CallScript
