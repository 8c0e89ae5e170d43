import Provision.Display.Spanned

/-!
# Lines of a given width

A line that is too wide is broken before a word that does not fit any more. Blanks belong to the
word in front of them, those at the start of a line to the first word. A word that is wider than
a line by itself is cut into pieces.

* `Display.measure`: the width that a text needs.
* `Display.wrap`: a line broken into lines of a given width.
-/

namespace Provision.Display

open Text

/-- Whether a point is blank. -/
def isBlankPoint : Point → Bool
  | .char c => isBlank c
  | .half _ => false

/-! ## Measuring -/

/-- Whether a point ends a line when a text is measured. -/
def endsLine (p : Point) : Bool :=
  ([0x0A, 0x1C, 0x1D, 0x1E, 0x85, 0x2028, 0x2029] : List Nat).contains p.number

/-- The lines that are measured. -/
def measuredLines : List Point → List (List Point)
  | [] => [[]]
  | p :: ps =>
    if endsLine p then [] :: measuredLines ps
    else match measuredLines ps with
      | [] => [[p]]
      | line :: lines => (p :: line) :: lines

/-- The width that a text needs: that of its widest line. Tabs do not count. -/
def measure (ps : List Point) : Nat := ((measuredLines ps).map cells).foldl max 0

/-! ## Words -/

/-- Where a reader of words is. -/
inductive Stage where
  | before
  | inside
  | after
deriving DecidableEq, Repr

/-- The words of a line, given the points of the current one, the last one first. -/
def wordsFrom : Stage → List Point → List Point → List (List Point)
  | _, word, [] => if word.isEmpty then [] else [word.reverse]
  | stage, word, p :: ps =>
    if isBlankPoint p then wordsFrom (if stage = .before then .before else .after) (p :: word) ps
    else if stage = .after then word.reverse :: wordsFrom .inside [p] ps
    else wordsFrom .inside (p :: word) ps

/-- The words of a line, each with the blanks around it. -/
def lineWords (ps : List Point) : List (List Point) := wordsFrom .before [] ps

/-- The points without blanks at the end. -/
def trimEnd (ps : List Point) : List Point := (ps.reverse.dropWhile isBlankPoint).reverse

/-- Clusters put into pieces of at most a given width; `piece` is the current one, and `size` the
cells it takes. -/
def chopFrom (width : Nat) : List Point → Nat → List Cluster → List (List Point)
  | piece, size, [] => if size = 0 then [] else [piece]
  | piece, size, c :: cs =>
    if width < size + c.cells then piece :: chopFrom width c.points c.cells cs
    else chopFrom width (piece ++ c.points) (size + c.cells) cs

/-- A word cut into pieces of at most a given width. -/
def chop (width : Nat) (word : List Point) : List (List Point) :=
  chopFrom width [] 0 (clusters word)

/-! ## Breaking -/

/-- Where pieces start that stand one behind the other. -/
def starts : Nat → List (List Point) → List Nat
  | _, [] => []
  | first, piece :: pieces => first :: starts (first + piece.length) pieces

/-- Where a line is broken: `first` is the position of the next word, and `column` the cells that
the current line takes. -/
def breaksFrom (width : Nat) : Nat → Nat → List (List Point) → List Nat
  | _, _, [] => []
  | first, column, word :: words =>
    let needed := cells (trimEnd word)
    let next := first + word.length
    if column + needed ≤ width then breaksFrom width next (column + cells word) words
    else if width < needed then
      let pieces := chop width word
      starts first pieces ++ breaksFrom width next (cells (pieces.getLast?.getD [])) words
    else first :: breaksFrom width next (cells word) words

/-- Where a line is broken to be at most as wide as given. -/
def breaks (width : Nat) (ps : List Point) : List Nat :=
  (breaksFrom width 0 0 (lineWords ps)).filter (· ≠ 0)

/-- A line without blanks at its end, as far as it has more points than given. -/
def cropBlanks (width : Nat) (t : Spanned) : Spanned :=
  let blanks := t.points.length - (trimEnd t.points).length
  t.keep (t.points.length - min blanks (t.points.length - width))

/-- A line cut to a given width. -/
def crop (width : Nat) (t : Spanned) : Spanned :=
  if cells t.points ≤ width then t
  else
    let kept := fitCells width t.points
    { t.keep kept.length with points := kept }

/-- A line broken into lines of at most a given width. -/
def wrap (width : Nat) (t : Spanned) : List Spanned :=
  let t := t.expandTabs
  (t.divide (breaks width t.points)).map fun line => crop width (cropBlanks width line)

end Provision.Display
