import Provision.Display.Markup
import Provision.Display.Panel
import Provision.Display.Styled

/-!
# Printing

What is printed is plain text: styles are not shown, tabs are filled up, and lines that have more
cells than the console are broken. The colours of styles are looked at all the same, as far as the
stretches of the styles are left when the text has been laid out.

* `Display.printed`: a styled text.
* `Display.printedMarkup`: a text with markup.
* `Display.printedPanel`: a text with markup, in a frame.
-/

namespace Provision.Display

/-- The lines of a text, broken where they are wider than given. -/
def laidOut (width : Nat) (t : Spanned) : List Spanned := t.lines.flatMap (wrap width)

/-- Lines as they are printed on a console of a given width, each with a line end. -/
def printedLines (width : Nat) (lines : List Spanned) : String :=
  String.join (lines.map fun line => joined (atMost width line.pieces) ++ "\n")

/-- The text of pieces with their styles. -/
def spannedPieces (pieces : List Piece) : Spanned :=
  ⟨Text.points (plain pieces).toList, (spans pieces).map fun s => ⟨s.first, s.last, s.style.name⟩⟩

/-- A styled text as it is printed, with a line end. -/
def printed (width : Nat) (pieces : List Piece) : String :=
  printedLines width (laidOut width (spannedPieces pieces))

/-- Lines, unless one of their styles has a colour that is none. -/
def withColours (lines : List Spanned) : Except Markup.Error (List Spanned) :=
  match Markup.colourFault? (lines.flatMap fun t => t.stretches.map Stretch.style) with
  | some f => .error (.colour f)
  | none => .ok lines

/-- A text with markup as it is printed, with a line end. -/
def printedMarkup (width : Nat) (markup : String) : Except Markup.Error String := do
  let t ← Markup.render markup
  return printedLines width (← withColours (laidOut width t))

/-- A text with markup in a frame. -/
def printedPanel (width : Nat) (markup : String) : Except Markup.Error String := do
  let t ← Markup.render markup
  let inner := min (measure t.points) (width - 4)
  return framed inner (← withColours (laidOut inner t))

end Provision.Display
