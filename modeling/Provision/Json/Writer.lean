import Provision.Double.Decimal
import Provision.Text.Quoted
import Provision.Value.Basic

/-!
# Writing JSON

The written text is printable ASCII: every other character is written as one `\u` escape, or two
for a surrogate pair; half of a pair is its own escape. A failed mark is a mapping with its kind
and error, and for a handle the value is written that is stored in its place. The layout is either
one line, or one item a line with an indent of two.

An integer with too many digits is not written, nor is a value that is nested too deep.
-/

namespace Provision.Json

/-- What stands around the items of a list or mapping at a given depth. -/
structure Layout where
  /-- After the opening bracket. -/
  opening : Nat → String
  /-- Between two items. -/
  between : Nat → String
  /-- Before the closing bracket. -/
  closing : Nat → String

/-- A new line, indented by two for each level. -/
def newLine (depth : Nat) : String := String.ofList ('\n' :: List.replicate (2 * depth) ' ')

/-- Everything on one line, with a space after a comma. -/
def Layout.oneLine : Layout := ⟨fun _ => "", fun _ => ", ", fun _ => ""⟩

/-- One item a line. -/
def Layout.indented : Layout :=
  ⟨fun depth => newLine (depth + 1), fun depth => "," ++ newLine (depth + 1), newLine⟩

/-- A 16-bit unit as an escape. -/
def unitEscape (unit : Nat) : List Char := '\\' :: 'u' :: Text.hex 4 unit

/-- One character inside quotes. -/
def escapeChar (c : Char) : List Char :=
  if c = '\x22' then ['\\', '\x22']
  else if c = '\\' then ['\\', '\\']
  else if c = '\n' then ['\\', 'n']
  else if c = '\r' then ['\\', 'r']
  else if c = '\t' then ['\\', 't']
  else if c = '\x08' then ['\\', 'b']
  else if c = '\x0c' then ['\\', 'f']
  else if 0x20 ≤ c.toNat ∧ c.toNat < 0x7f then [c]
  else if c.toNat < 0x10000 then unitEscape c.toNat
  else
    let n := c.toNat - 0x10000
    unitEscape (0xD800 + n / 0x400) ++ unitEscape (0xDC00 + n % 0x400)

/-- One point inside quotes. -/
def escape : Text.Point → List Char
  | .char c => escapeChar c
  | .half unit => unitEscape unit

/-- A text in double quotes. -/
def quote (s : String) : String :=
  String.ofList ('\x22' :: ((Text.points s.toList).flatMap escape ++ ['\x22']))

/-- Written items between brackets. -/
def enclose (l : Layout) (depth : Nat) (left right : String) : List String → String
  | [] => left ++ right
  | items => left ++ l.opening depth ++ (l.between depth).intercalate items ++
      l.closing depth ++ right

mutual

/-- A value at a given depth. -/
def writeAt (l : Layout) : Nat → Value → Except TextFault String
  | _, .null => .ok "null"
  | _, .bool b => .ok (if b then "true" else "false")
  | _, .int n => Value.integerText n
  | _, .double x => .ok (x.render Double.storedLayout)
  | _, .text s => .ok (quote s)
  | depth, .list items =>
    if depth < Value.depthLimit then enclose l depth "[" "]" <$> writeItems l (depth + 1) items
    else .error .tooDeep
  | depth, .table entries =>
    if depth < Value.depthLimit then
      enclose l depth "\x7b" "\x7d" <$> writeEntries l (depth + 1) entries
    else .error .tooDeep
  | depth, .failed error =>
    if depth < Value.depthLimit then
      .ok (enclose l depth "\x7b" "\x7d"
        [quote "kind" ++ ": " ++ quote "failed", quote "error" ++ ": " ++ quote error])
    else .error .tooDeep
  | depth, .handle _ _ (.ok v) => writeAt l depth v
  | _, .handle _ _ (.error f) => .error f

/-- The items of a list. -/
def writeItems (l : Layout) (depth : Nat) : List Value → Except TextFault (List String)
  | [] => .ok []
  | v :: vs => do
    let text ← writeAt l depth v
    return text :: (← writeItems l depth vs)

/-- The entries of a mapping. -/
def writeEntries (l : Layout) (depth : Nat) :
    List (String × Value) → Except TextFault (List String)
  | [] => .ok []
  | (k, v) :: es => do
    let text ← writeAt l depth v
    return (quote k ++ ": " ++ text) :: (← writeEntries l depth es)

end

/-- A value on one line. -/
def writeLine (v : Value) : Except TextFault String := writeAt Layout.oneLine 0 v

/-- A value with one item a line. -/
def write (v : Value) : Except TextFault String := writeAt Layout.indented 0 v

end Provision.Json
