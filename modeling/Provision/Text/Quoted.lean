import Provision.Text.Point
import Provision.Text.Printable

/-!
# Quoted text

A text inside a shown list or mapping stands between quotes: single ones, or double ones when
it holds a single quote and no double quote. The quote in use, the backslash and every
character that is not printable are escaped.
-/

namespace Provision.Text

/-- A number in lower-case hexadecimal, filled with zeros to a width. -/
def hex (width n : Nat) : List Char :=
  let ds := Nat.toDigits 16 n
  List.replicate (width - ds.length) '0' ++ ds

/-- The quote a text is written with. -/
def quoteFor (cs : List Char) : Char :=
  if cs.contains '\x27' && !cs.contains '\x22' then '\x22' else '\x27'

/-- One character inside quotes. -/
def escapeChar (quote c : Char) : List Char :=
  if c = quote ∨ c = '\\' then ['\\', c]
  else if c = '\n' then ['\\', 'n']
  else if c = '\r' then ['\\', 'r']
  else if c = '\t' then ['\\', 't']
  else if isPrintable c then [c]
  else if c.toNat < 0x100 then '\\' :: 'x' :: hex 2 c.toNat
  else if c.toNat < 0x10000 then '\\' :: 'u' :: hex 4 c.toNat
  else '\\' :: 'U' :: hex 8 c.toNat

/-- One point inside quotes. -/
def escape (quote : Char) : Point → List Char
  | .char c => escapeChar quote c
  | .half unit => '\\' :: 'u' :: hex 4 unit

/-- A text between quotes. -/
def quoted (s : String) : String :=
  let cs := s.toList
  let q := quoteFor cs
  String.ofList (q :: ((points cs).flatMap (escape q) ++ [q]))

end Provision.Text
