import Provision.Text.Ranges

/-!
# Blank characters

Space, tab, line and page ends, the four information separators, and every space and separator
of Unicode.
-/

namespace Provision.Text

/-- The ranges of blank characters. -/
def blankRanges : List (Nat × Nat) :=
  [(0x09, 0x0D), (0x1C, 0x20), (0x85, 0x85), (0xA0, 0xA0), (0x1680, 0x1680), (0x2000, 0x200A),
    (0x2028, 0x2029), (0x202F, 0x202F), (0x205F, 0x205F), (0x3000, 0x3000)]

/-- Whether a character is blank. -/
def isBlank (c : Char) : Bool := inRanges blankRanges c

/-- Whether a character is blank and ends no line. -/
def isInlineBlank (c : Char) : Bool := isBlank c && c ≠ '\n' && c ≠ '\r'

/-- The characters without blanks at the end. -/
def trimRight (cs : List Char) : List Char := (cs.reverse.dropWhile isBlank).reverse

/-- The characters without blanks at either end. -/
def trim (cs : List Char) : List Char := trimRight (cs.dropWhile isBlank)

/-- The words of a text, between blanks. -/
def words (s : String) : List String :=
  let (words, last) := s.toList.foldr (fun c (words, word) =>
    if isBlank c then (if word.isEmpty then words else word :: words, [])
    else (words, c :: word)) (([] : List (List Char)), ([] : List Char))
  (if last.isEmpty then words else last :: words).map String.ofList

end Provision.Text
