import Provision.Display.Wrap

/-!
# Panels

A panel is a text in a frame as wide as the text needs.
-/

namespace Provision.Display

/-- The text of pieces. -/
def joined (pieces : List (List Text.Point)) : String := Text.ofPoints pieces.flatten

/-- A line of a panel: the pieces of a line between blanks, filled up to a width. -/
def panelLine (width : Nat) (line : Spanned) : String :=
  let inside := [blank] :: (exactly width line.pieces ++ [[blank]])
  "│" ++ joined (exactly (width + 2) inside) ++ "│\n"

/-- Lines in a frame; every line ends with a line feed. -/
def framed (width : Nat) (lines : List Spanned) : String :=
  let bar := String.ofList (List.replicate (width + 2) '─')
  "╭" ++ bar ++ "╮\n" ++ String.join (lines.map (panelLine width)) ++ "╰" ++ bar ++ "╯\n"

end Provision.Display
