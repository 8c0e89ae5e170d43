import Provision.Text.Point

/-!
# Styled text

A styled text is a list of pieces, each with an optional style. Bell, backspace, vertical tab,
form feed and carriage return are never shown, so a piece drops them.

* `Display.plain`: the text without styles.
* `Display.spans`: the styled stretches, in code points.
-/

namespace Provision.Display

/-- The styles in use. -/
inductive Style where
  | success
  | failed
  | pending
  | header
  | identifier
  | attribute
  | comment
deriving DecidableEq, Repr

/-- The name of a style. -/
def Style.name : Style → String
  | .success => "green"
  | .failed => "red"
  | .pending => "yellow"
  | .header => "bold blue"
  | .identifier => "bright_white"
  | .attribute => "cyan"
  | .comment => "dim"

/-- Whether a character is dropped from shown text. -/
def isDropped (c : Char) : Bool := [7, 8, 11, 12, 13].contains c.toNat

/-- A text without the characters that are never shown. -/
def shown (s : String) : String := String.ofList (s.toList.filter fun c => !isDropped c)

/-- A stretch of text with one style or none. -/
structure Piece where
  text : String
  style : Option Style
deriving DecidableEq, Repr

/-- A text with a style. -/
def styled (style : Style) (text : String) : Piece := ⟨shown text, some style⟩

/-- A text without a style. -/
def unstyled (text : String) : Piece := ⟨shown text, none⟩

/-- The text without styles. -/
def plain (pieces : List Piece) : String := String.join (pieces.map Piece.text)

/-- A styled stretch: where it starts, where it ends, and its style. -/
structure Span where
  first : Nat
  last : Nat
  style : Style
deriving DecidableEq, Repr

/-- The styled stretches of pieces that start at a given position. -/
def spansFrom : Nat → List Piece → List Span
  | _, [] => []
  | first, p :: ps =>
    let last := first + Text.count p.text.toList
    match p.style with
    | some style =>
      if p.text = "" then spansFrom last ps else ⟨first, last, style⟩ :: spansFrom last ps
    | none => spansFrom last ps

/-- The styled stretches. -/
def spans (pieces : List Piece) : List Span := spansFrom 0 pieces

end Provision.Display
