import Provision.Double.Basic
import Provision.Time.Moment

/-!
# Run identifiers

A run identifier is a number of 128 bits, 48 of them the milliseconds since 1970 and 80 of them
randomness, written as 26 letters of a base-32 alphabet without `I`, `L`, `O` and `U`. Letters
are read in either case. Since the alphabet is in code point order, identifiers sort by time.

* `RunId.encode`: the text of a time and a randomness.
* `RunId.decode`: the number a text denotes.
* `RunId.moment`: the time of day of an identifier.
-/

namespace Provision.RunId

/-- The digits of the notation, in order. -/
def alphabet : List Char := "0123456789ABCDEFGHJKMNPQRSTVWXYZ".toList

/-- One more than the greatest time. -/
def timeBound : Nat := Nat.pow 2 48

/-- One more than the greatest randomness. -/
def randomBound : Nat := Nat.pow 2 80

/-- A number in base 32, with a given number of letters. -/
def letters : Nat → Nat → List Char
  | 0, _ => []
  | width + 1, n => letters width (n / 32) ++ [alphabet.getD (n % 32) '0']

/-- The text of a time and a randomness. -/
def encode (time random : Nat) : String :=
  String.ofList (letters 26 (time * randomBound + random))

/-- Why a text is no run identifier, or an identifier has no date. -/
inductive Error where
  | wrongLength
  | badLetter
  | tooLarge (head : String)
  | yearOutOfRange (year : Nat)
deriving DecidableEq, Repr

/-- The wording of an error. -/
def Error.message : Error → String
  | .wrongLength => "Encoded ULID has to be exactly 26 characters long."
  | .badLetter => "Encoded ULID can only consist of letters in " ++ String.ofList alphabet ++ "."
  | .tooLarge head =>
    "Timestamp value " ++ head ++ " is too large and will overflow 128-bits."
  | .yearOutOfRange year => "year " ++ toString year ++ " is out of range"

/-- The value of a letter. -/
def digit? (c : Char) : Option Nat := alphabet.findIdx? (· = c.toUpper)

/-- The number denoted by letters. -/
def ofDigits (ds : List Nat) : Nat := ds.foldl (fun n d => n * 32 + d) 0

/-- The number of 128 bits a text denotes. -/
def decode (text : String) : Except Error Nat :=
  let cs := text.toList
  if cs.length ≠ 26 then .error .wrongLength
  else match cs.mapM digit? with
    | none => .error .badLetter
    | some ds =>
      if 7 < ds.headD 0 then .error (.tooLarge (String.ofList (cs.take 10)))
      else .ok (ofDigits ds)

/-- Whether a text is a run identifier. -/
def isValid (text : String) : Bool := (decode text).isOk

/-- The milliseconds of an identifier. -/
def timeOf (id : Nat) : Nat := id / randomBound

/-- The moment given by milliseconds. They are first made a double of seconds, whose fraction is
then rounded to microseconds, so late times show the double's error. -/
def momentOfMillis (millis : Nat) : Time.Moment :=
  match (Double.ofRatio false millis 1000).split? with
  | none => Time.Moment.ofMicros 0 (some 0)
  | some (_, whole, fraction) =>
    let micros := match Double.ofRatio false (fraction * 1000000) Double.unitsPerOne with
      | .signed _ rank => Double.roundDiv (Double.units rank.val) Double.unitsPerOne
      | .nan => 0
    Time.Moment.ofMicros (whole * 1000000 + micros : Nat) (some 0)

/-- The moment of an identifier; dates end with the year 9999. -/
def moment (text : String) : Except Error Time.Moment := do
  let id ← decode text
  let m := momentOfMillis (timeOf id)
  if 9999 < m.date.year then .error (.yearOutOfRange m.date.year) else .ok m

end Provision.RunId
