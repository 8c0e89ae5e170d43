import Provision.Text.Integer
import Provision.Text.Point

/-!
# Faults of a JSON text

A malformed text is refused with a cause and a place; two further limits have no place: the
number of digits of an integer, and the depth of nesting. The reader counts how much text is
left at a fault; `Error.locate` turns that into line, column and offset.
-/

namespace Provision.Json

/-- Why a text is not JSON. -/
inductive Cause where
  | expectingValue
  | extraData
  | expectingComma
  | expectingColon
  | expectingName
  | unterminated
  | controlCharacter
  | badEscape
  | badUnicodeEscape
  | byteOrderMark
deriving DecidableEq, Repr

/-- The wording of a cause. -/
def Cause.message : Cause → String
  | .expectingValue => "Expecting value"
  | .extraData => "Extra data"
  | .expectingComma => "Expecting ',' delimiter"
  | .expectingColon => "Expecting ':' delimiter"
  | .expectingName => "Expecting property name enclosed in double quotes"
  | .unterminated => "Unterminated string starting at"
  | .controlCharacter => "Invalid control character at"
  | .badEscape => "Invalid \\escape"
  | .badUnicodeEscape => "Invalid \\uXXXX escape"
  | .byteOrderMark => "Unexpected UTF-8 BOM (decode using utf-8-sig)"

/-- A fault while reading, with how much of the text is left at its place. -/
inductive Fault where
  | malformed (cause : Cause) (left : Nat)
  | tooManyDigits (count : Nat)
  | tooDeep
deriving DecidableEq, Repr

/-- A fault of a whole text. Lines and columns count from one, the offset from zero. -/
inductive Error where
  | malformed (cause : Cause) (line column offset : Nat)
  | tooManyDigits (count : Nat)
  | tooDeep
deriving DecidableEq, Repr

/-- The wording of an error; exhausted depth has none. -/
def Error.message : Error → String
  | .malformed cause line column offset =>
    cause.message ++ ": line " ++ toString line ++ " column " ++ toString column ++
      " (char " ++ toString offset ++ ")"
  | .tooManyDigits count => (Text.IntegerFault.tooManyDigits count).message
  | .tooDeep => ""

/-- The place of a fault in its text. -/
def Error.locate (text : List Char) : Fault → Error
  | .malformed cause left =>
    let before := text.take (text.length - left)
    let tail := (before.reverse.takeWhile (· ≠ '\n')).reverse
    .malformed cause (before.count '\n' + 1) (Text.count tail + 1) (Text.count before)
  | .tooManyDigits count => .tooManyDigits count
  | .tooDeep => .tooDeep

end Provision.Json
