import Provision.Literal.Fault

/-!
# Quoted texts in expressions

A quoted text stands between single, double or tripled quotes. Letters in front of it say whether
it is of bytes, whether its escapes count, and whether it has fields.

* `Literal.Quotation`: a quoted text.
* `Literal.readQuotation`: a quoted text at the start of some characters.
-/

namespace Provision.Literal

/-- A quoted text and the line where it starts. -/
structure Quotation where
  bytes : Bool
  raw : Bool
  formatted : Bool
  body : List Char
  line : Nat
deriving DecidableEq, Repr

/-- What is left after a quoted text: its body, the characters behind it, and the line. -/
structure Closed where
  body : List Char
  rest : List Char
  line : Nat

/-- The body of a quoted text up to its closing quote, or the line where it is missing. A long
text is closed by three quotes and may go over several lines. -/
def readBody (quote : Char) (long : Bool) : Nat → List Char → Except Nat Closed
  | line, [] => .error line
  | line, '\\' :: c :: cs =>
    (readBody quote long (if c = '\n' then line + 1 else line) cs).map fun r =>
      { r with body := '\\' :: c :: r.body }
  | line, c :: cs =>
    if c = quote && !long then .ok ⟨[], cs, line⟩
    else if c = quote && [quote, quote].isPrefixOf cs then .ok ⟨[], cs.drop 2, line⟩
    else if c = '\n' && !long then .error line
    else (readBody quote long (if c = '\n' then line + 1 else line) cs).map fun r =>
      { r with body := c :: r.body }

/-- The letters that may stand in front of a quoted text. -/
def textMarks : List String := ["b", "u", "r", "f", "br", "rb", "fr", "rf"]

/-- A quoted text after its letters, and the line after it. -/
def readQuotation (marks : List Char) (quote : Char) (line : Nat) (cs : List Char) :
    Except Fault (Quotation × List Char × Nat) :=
  let marks := marks.map Char.toLower
  let long := [quote, quote].isPrefixOf cs
  match readBody quote long line (if long then cs.drop 2 else cs) with
  | .error line => .error (if long then .unendedLongText line else .unendedText line)
  | .ok c =>
    .ok (⟨marks.contains 'b', marks.contains 'r', marks.contains 'f', c.body, line⟩, c.rest, c.line)

end Provision.Literal
