import Provision.Display.Cells
import Provision.Text.Blank

/-!
# Texts with stretches

A text to be laid out has stretches with names of styles. Where the text is cut, its stretches are
cut with it, and a part without points is left out. What lies between the ends of stretches is
measured piece by piece.

* `Spanned.divide`: a text cut at some positions.
* `Spanned.expandTabs`: a text with tabs filled up to the next stop.
* `Spanned.pieces`: a text cut at the ends of its stretches.
-/

namespace Provision.Display

open Text

/-- A stretch of a text by its start and its end, and the name of its style. -/
structure Stretch where
  first : Nat
  last : Nat
  style : String
deriving DecidableEq, Repr

/-- A text with stretches. -/
structure Spanned where
  points : List Point := []
  stretches : List Stretch := []
deriving DecidableEq, Repr

/-- The part of a stretch between two positions, counted from the first of them. -/
def Stretch.between? (first last : Nat) (s : Stretch) : Option Stretch :=
  let start := s.first - first
  let stop := min s.last last - first
  if start < stop then some ⟨start, stop, s.style⟩ else none

namespace Spanned

/-- The part of a text between two positions. -/
def between (first last : Nat) (t : Spanned) : Spanned :=
  ⟨(t.points.drop first).take (last - first), t.stretches.filterMap (Stretch.between? first last)⟩

/-- The parts of a text from a position on, between cuts. -/
def partsFrom (t : Spanned) : Nat → List Nat → List Spanned
  | first, [] => [t.between first t.points.length]
  | first, cut :: cuts => t.between first cut :: partsFrom t cut cuts

/-- A text cut at some positions. Without any it keeps its empty stretches, too. -/
def divide (t : Spanned) (cuts : List Nat) : List Spanned :=
  if cuts.isEmpty then [t] else t.partsFrom 0 cuts

/-- The positions of a character, counted from a given one. -/
def positionsFrom (c : Char) : Nat → List Point → List Nat
  | _, [] => []
  | i, p :: ps =>
    if p = .char c then i :: positionsFrom c (i + 1) ps else positionsFrom c (i + 1) ps

/-- The positions of a character. -/
def positions (c : Char) (t : Spanned) : List Nat := positionsFrom c 0 t.points

/-- The lines of a text. -/
def lines (t : Spanned) : List Spanned :=
  (t.divide ((t.positions '\n').flatMap fun i => [i, i + 1])).filter (·.points ≠ [.char '\n'])

/-- A text behind another one. -/
def append (t u : Spanned) : Spanned :=
  ⟨t.points ++ u.points, t.stretches ++ u.stretches.map fun s =>
    { s with first := t.points.length + s.first, last := t.points.length + s.last }⟩

/-- A text with blanks behind it. A stretch that goes on to the end takes them in. -/
def extend (t : Spanned) (count : Nat) : Spanned :=
  ⟨t.points ++ List.replicate count blank, t.stretches.map fun s =>
    if t.points.length ≤ s.last then { s with last := s.last + count } else s⟩

/-- The first points of a text. -/
def keep (t : Spanned) (count : Nat) : Spanned :=
  if t.points.length ≤ count then t
  else ⟨t.points.take count, (t.stretches.filter (·.first < count)).map fun s =>
    { s with last := min s.last count }⟩

/-! ## Tabs -/

/-- The distance of the tab stops. -/
def tabSize : Nat := 8

/-- A part that ends with a tab, starting at a given column: a blank stands for the tab, and as
many more lead to the next stop. -/
def fillTab (column : Nat) (t : Spanned) : Spanned :=
  let t := { t with points := t.points.dropLast ++ [blank] }
  t.extend ((tabSize - (column + cells t.points) % tabSize) % tabSize)

/-- The parts of a line joined, each but the last one ending with a tab. -/
def fillTabs : Nat → List Spanned → Spanned
  | _, [] => {}
  | _, [t] => t
  | column, t :: ts =>
    let filled := t.fillTab column
    let added := filled.points.length - t.points.length
    let column := column + cells (filled.points.take t.points.length) + added
    filled.append (fillTabs column ts)

/-- A line with its tabs filled up. -/
def expandTabs (t : Spanned) : Spanned :=
  match t.positions '\t' with
  | [] => t
  | tabs => fillTabs 0 (t.partsFrom 0 (tabs.map (· + 1)))

/-! ## Pieces -/

/-- The positions at which stretches start or end, in order. -/
def bounds (t : Spanned) : List Nat :=
  (t.stretches.flatMap fun s => [s.first, s.last]).mergeSort

/-- The pieces of points behind a position, cut at later ones. -/
def piecesFrom : Nat → List Nat → List Point → List (List Point)
  | _, [], ps => [ps]
  | first, cut :: cuts, ps => ps.take (cut - first) :: piecesFrom cut cuts (ps.drop (cut - first))

/-- A text cut at the ends of its stretches. -/
def pieces (t : Spanned) : List (List Point) :=
  (piecesFrom 0 t.bounds t.points).filter (· ≠ [])

end Spanned

/-- Pieces as far as they fit into a number of cells. -/
def cropPieces : Nat → List (List Point) → List (List Point)
  | _, [] => []
  | width, piece :: pieces =>
    if cells piece < width then piece :: cropPieces (width - cells piece) pieces
    else [fitCells width piece]

/-- How many cells pieces take. -/
def pieceCells (pieces : List (List Point)) : Nat := (pieces.map cells).foldl (· + ·) 0

/-- Pieces cut to a number of cells if they take more. -/
def atMost (width : Nat) (pieces : List (List Point)) : List (List Point) :=
  if pieceCells pieces ≤ width then pieces else cropPieces width pieces

/-- Pieces cut or filled up to a number of cells. -/
def exactly (width : Nat) (pieces : List (List Point)) : List (List Point) :=
  if pieceCells pieces < width then
    pieces ++ [List.replicate (width - pieceCells pieces) blank]
  else atMost width pieces

end Provision.Display
