/-!
# Control sequences

A control sequence is an escape character, an opening bracket, digits, semicolons and question
marks, and a letter. It moves a cursor or sets a colour and shows nothing itself.
-/

namespace Provision.Display

/-- The character that starts a control sequence. -/
def escapeChar : Char := Char.ofNat 27

/-- Whether a character may stand between the bracket and the letter. -/
def isParameter (c : Char) : Bool := c.isDigit || c = ';' || c = '?'

/-- The characters without control sequences, given the start of one that may be going on. -/
def dropControls : List Char → List Char → List Char
  | pending, [] => pending
  | pending, c :: cs =>
    if c = escapeChar then pending ++ dropControls [c] cs
    else if pending = [escapeChar] && c = '[' then dropControls (pending ++ [c]) cs
    else if 2 ≤ pending.length && isParameter c then dropControls (pending ++ [c]) cs
    else if 2 ≤ pending.length && c.isAlpha then dropControls [] cs
    else pending ++ c :: dropControls [] cs

/-- A text without control sequences. -/
def withoutControls (s : String) : String := String.ofList (dropControls [] s.toList)

end Provision.Display
