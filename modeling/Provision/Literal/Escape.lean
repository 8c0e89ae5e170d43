import Provision.Literal.Number
import Provision.Text.CharacterName

/-!
# Escapes in quoted texts

A backslash in a quoted text may start the number or the name of a character. Faults of such
escapes are told with their positions in the spelled text, in which every other character than
those of ASCII is an escape itself.

* `Literal.spelled`: a text with escapes for all other characters than those of ASCII.
* `Literal.escapeFault?`: the first fault of the escapes in a text.
* `Literal.byteEscapeFault?`: the same for a text of bytes.
-/

namespace Provision.Literal

/-- A backslash that cannot start an escape. -/
def spelledBackslash : List Char := '\\' :: 'u' :: Text.hex 4 '\\'.toNat

/-- The characters with escapes for others than those of ASCII, and for a backslash in front of one
of these or at the end. -/
def spelled : List Char → List Char
  | [] => []
  | ['\\'] => spelledBackslash
  | '\\' :: c :: cs =>
    if 128 ≤ c.toNat then spelledBackslash ++ '\\' :: 'U' :: Text.hex 8 c.toNat ++ spelled cs
    else '\\' :: c :: spelled cs
  | c :: cs =>
    if 128 ≤ c.toNat then '\\' :: 'U' :: Text.hex 8 c.toNat ++ spelled cs else c :: spelled cs

/-- The value of a digit to the base sixteen. -/
def hexValue (d : Char) : Nat := if d.isDigit then d.toNat - 48 else d.toLower.toNat - 87

/-- The fault of the escape with a letter and a number of digits, if there is one. -/
def digitsFault? (letter : Char) (count position : Nat) (cs : List Char) : Option Fault :=
  let digits := (cs.take count).takeWhile isHexDigit
  let value := digits.foldl (fun n d => n * 16 + hexValue d) 0
  let last := position + 2 + digits.length
  if digits.length < count then some (.badEscape (.truncated letter count) position last)
  else if 0x10FFFF < value then some (.badEscape .beyondUnicode position last)
  else none

/-- The fault of the escape of a named character, if there is one. -/
def nameFault? (position : Nat) (cs : List Char) : Option Fault :=
  match cs with
  | '\x7b' :: cs =>
    let name := cs.takeWhile (· ≠ '\x7d')
    let last := position + 3 + name.length
    if name.isEmpty || !cs.contains '\x7d' then some (.badEscape .unnamed position last)
    else if Text.isCharacterName name then none
    else some (.badEscape .unknownName position (last + 1))
  | _ => some (.badEscape .unnamed position (position + 2))

/-- The first fault of the escapes in a spelled text, from a position on. -/
def escapeFaultFrom? : Nat → List Char → Option Fault
  | _, [] => none
  | position, '\\' :: c :: cs =>
    let fault := match c with
      | 'x' => digitsFault? 'x' 2 position cs
      | 'u' => digitsFault? 'u' 4 position cs
      | 'U' => digitsFault? 'U' 8 position cs
      | 'N' => nameFault? position cs
      | _ => none
    match fault with
    | some f => some f
    | none => escapeFaultFrom? (position + 2) cs
  | position, _ :: cs => escapeFaultFrom? (position + 1) cs

/-- The first fault of the escapes in a text. -/
def escapeFault? (cs : List Char) : Option Fault := escapeFaultFrom? 0 (spelled cs)

/-- The first fault of the escapes in a text of bytes, from a position on. -/
def byteEscapeFault? : Nat → List Char → Option Fault
  | _, [] => none
  | position, '\\' :: c :: cs =>
    if c = 'x' && ((cs.take 2).takeWhile isHexDigit).length < 2 then
      some (.badByteEscape position)
    else byteEscapeFault? (position + 2) cs
  | position, _ :: cs => byteEscapeFault? (position + 1) cs

end Provision.Literal
