/-!
# Line ends

A text from outside may end its lines by a line feed, a carriage return, or both. Inside, a line
feed alone ends a line.
-/

namespace Provision.Text

/-- Every line end made a line feed. -/
def unifyLineEnds : List Char → List Char
  | '\r' :: '\n' :: cs => '\n' :: unifyLineEnds cs
  | '\r' :: cs => '\n' :: unifyLineEnds cs
  | c :: cs => c :: unifyLineEnds cs
  | [] => []

/-- A text with every line end made a line feed. -/
def withLineFeeds (s : String) : String := String.ofList (unifyLineEnds s.toList)

/-- The characters between separators. -/
def splitChars (sep : Char) : List Char → List (List Char)
  | [] => [[]]
  | c :: cs =>
    if c = sep then [] :: splitChars sep cs
    else match splitChars sep cs with
      | [] => [[c]]
      | part :: parts => (c :: part) :: parts

/-- The texts between separators. -/
def split (sep : Char) (s : String) : List String :=
  (splitChars sep s.toList).map String.ofList

/-- The lines of an input, each without its end. A last line may lack its end, and the end of
the last line starts no other line. -/
def inputLines (s : String) : List String :=
  let lines := split '\n' (withLineFeeds s)
  if lines.getLast? = some "" then lines.dropLast else lines

end Provision.Text
