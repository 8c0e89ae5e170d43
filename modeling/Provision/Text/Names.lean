import Provision.Text.Point

/-!
# Names: cutting, sorting and listing

* `Text.cut`: a text cut at the first occurrence of a separator.
* `Text.sorted`: names in the order of their points.
* `Text.listing`: names joined by commas.
-/

namespace Provision.Text

/-- The characters before and after the first separator, if there is one. -/
def cutChars (sep : Char) : List Char → Option (List Char × List Char)
  | [] => none
  | c :: cs =>
    if c = sep then some ([], cs)
    else (cutChars sep cs).map fun (before, after) => (c :: before, after)

/-- The texts before and after the first separator, if there is one. -/
def cut (sep : Char) (s : String) : Option (String × String) :=
  (cutChars sep s.toList).map fun (before, after) => (String.ofList before, String.ofList after)

/-- Names in the order of their points. -/
def sorted (names : List String) : List String := names.mergeSort precedes

/-- Every name once, in the order of first occurrence. -/
def distinct (names : List String) : List String :=
  names.foldl (fun seen name => if seen.contains name then seen else seen ++ [name]) []

/-- Names joined by a comma and a space. -/
def listing (names : List String) : String := ", ".intercalate names

end Provision.Text
