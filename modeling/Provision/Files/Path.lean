import Provision.Text.Lines
import Provision.Text.Unencodable

/-!
# Paths of files

A path is a sequence of names, from the working directory or from a root. Empty names and single
dots mean nothing and are dropped; the path without names is written as a dot.
-/

namespace Provision.Files

/-- Where a path starts. Exactly two slashes in front start at a root of their own. -/
inductive Start where
  | here
  | root
  | otherRoot
deriving DecidableEq, Repr

/-- The slashes in front. -/
def Start.text : Start → String
  | .here => ""
  | .root => "/"
  | .otherRoot => "//"

/-- A path. -/
structure Path where
  start : Start := .here
  names : List String := []
deriving DecidableEq, Repr

/-- Where a written path starts. -/
def startOf : List Char → Start
  | '/' :: '/' :: '/' :: _ => .root
  | '/' :: '/' :: _ => .otherRoot
  | '/' :: _ => .root
  | _ => .here

/-- The path of a text. -/
def Path.ofText (s : String) : Path :=
  ⟨startOf s.toList, (Text.split '/' s).filter fun name => name ≠ "" && name ≠ "."⟩

/-- The path as it is written. -/
def Path.text (p : Path) : String :=
  let written := p.start.text ++ "/".intercalate p.names
  if written = "" then "." else written

/-- The last name. -/
def Path.name (p : Path) : String := p.names.getLast?.getD ""

/-- The path to a name in the directory of a path. -/
def Path.child (p : Path) (name : String) : Path := { p with names := p.names ++ [name] }

/-- The path to the directory that holds a path. -/
def Path.parent (p : Path) : Path := { p with names := p.names.dropLast }

/-- Whether a point may stand in the name of a file. A name is made of bytes other than zero; those
that are no part of a character are kept as the halves with the same last two digits. -/
def isNamePoint : Text.Point → Bool
  | .char c => c ≠ Char.ofNat 0
  | p => p.isByte

/-- Whether a text can be the name of a file, or a path of such names. -/
def isName (s : String) : Bool := (Text.points s.toList).all isNamePoint

/-- How many bytes a name has. -/
def byteCount (s : String) : Nat :=
  ((Text.points s.toList).map fun p =>
    match p with
    | .char c => c.utf8Size
    | .half _ => 1).foldl (· + ·) 0

end Provision.Files
