import Provision.Text.Utf8
import Provision.Time.Moment
import Provision.Value.Basic

/-!
# Reading moments

A moment is written `YYYY-MM-DD`, then `T`, `t`, a space or an underscore, then `HH:MM` with
optional seconds, fraction and offset; a date alone is its midnight. A number, or a text that
is one, counts seconds since 1970 in universal time, or milliseconds when it is too large for
seconds. A text that is neither is refused with the fault of its date. The year zero can be
written and counted, but is no year of the calendar.
-/

namespace Provision.Time

/-- Why a value is no moment. -/
inductive Fault where
  /-- The value is neither a text nor a number of a possible size. -/
  | kind
  /-- A number or a date outside the calendar, or no number. -/
  | number (why : String)
  /-- A text that holds something other than characters. -/
  | unread
  /-- A text that is no date. -/
  | text (why : String)
deriving DecidableEq, Repr

/-- The value of a decimal digit. -/
def digit? (c : Char) : Option Nat := if c.isDigit then some (c.toNat - '0'.toNat) else none

/-- A given number of digits at the head of a text. -/
def digits? : Nat → Nat → List Char → Option (Nat × List Char)
  | 0, acc, cs => some (acc, cs)
  | _ + 1, _, [] => none
  | count + 1, acc, c :: cs => (digit? c).bind fun d => digits? count (acc * 10 + d) cs

/-! ## Dates -/

/-- A dash, or the fault of a missing one. -/
def dash : List Char → Except String (List Char)
  | '-' :: cs => .ok cs
  | _ => .error "invalid date separator, expected `-`"

/-- A date at the head of a text. -/
def readDate (text : String) : Except String (Date × List Char) := do
  if (Utf8.encode text).length < 10 then throw "input is too short"
  let some (year, cs) := digits? 4 0 text.toList | throw "invalid character in year"
  let cs ← dash cs
  let some (month, cs) := digits? 2 0 cs | throw "invalid character in month"
  let cs ← dash cs
  let some (day, cs) := digits? 2 0 cs | throw "invalid character in day"
  let some most := daysInMonth? year month
    | throw "month value is outside expected range of 1-12"
  if day < 1 ∨ most < day then throw "day value is outside expected range"
  return (⟨year, month, day⟩, cs)

/-! ## Times of day -/

/-- Hour, minute, second and microsecond. -/
structure Clock where
  hour : Nat
  minute : Nat
  second : Nat
  micro : Nat
deriving DecidableEq, Repr

/-- The digits of a fraction as microseconds, those past the sixth cut off. -/
def micros? (cs : List Char) : Option (Nat × List Char) :=
  let ds := cs.takeWhile Char.isDigit
  if ds.isEmpty then none
  else
    let six := (ds ++ List.replicate 6 '0').take 6
    some (six.foldl (fun n c => n * 10 + (c.toNat - '0'.toNat)) 0, cs.dropWhile Char.isDigit)

/-- Seconds with an optional fraction, after a colon. -/
def seconds? (cs : List Char) : Option ((Nat × Nat) × List Char) := do
  let (second, cs) ← digits? 2 0 cs
  if 59 < second then none
  else match cs with
    | '.' :: cs | ',' :: cs =>
      let (micro, cs) ← micros? cs
      return ((second, micro), cs)
    | cs => return ((second, 0), cs)

/-- A time of day at the head of a text. -/
def clock? (cs : List Char) : Option (Clock × List Char) := do
  let (hour, cs) ← digits? 2 0 cs
  let ':' :: cs := cs | none
  let (minute, cs) ← digits? 2 0 cs
  if 23 < hour ∨ 59 < minute then none
  else match cs with
    | ':' :: cs =>
      let ((second, micro), cs) ← seconds? cs
      return (⟨hour, minute, second, micro⟩, cs)
    | cs => return (⟨hour, minute, 0, 0⟩, cs)

/-- Whether a character is a minus sign, short or long. -/
def isMinus (c : Char) : Bool := c = '-' || c = '\u2212'

/-- The offset that ends a text; the inner option is empty when none is given. -/
def offset? : List Char → Option (Option Int)
  | [] => some none
  | ['Z'] | ['z'] => some (some 0)
  | sign :: cs => do
    if sign ≠ '+' ∧ !isMinus sign then none
    else
      let (hours, cs) ← digits? 2 0 cs
      let cs := match cs with
        | ':' :: cs => cs
        | cs => cs
      let (minutes, cs) ← digits? 2 0 cs
      if cs ≠ [] ∨ 59 < minutes ∨ 23 < hours then none
      else
        let n : Int := (hours * 3600 + minutes * 60 : Nat)
        return some (if isMinus sign then -n else n)

/-- Whether a character may stand between a date and a time of day. -/
def isSeparator (c : Char) : Bool := c = 'T' || c = 't' || c = ' ' || c = '_'

/-- A date with a time of day. -/
def dateTime? (text : String) : Option Moment :=
  match readDate text with
  | .error _ => none
  | .ok (date, sep :: cs) =>
    if isSeparator sep then do
      let (clock, cs) ← clock? cs
      let offset ← offset? cs
      return ⟨date, clock.hour, clock.minute, clock.second, clock.micro, offset⟩
    else none
  | .ok (_, []) => none

/-! ## Numbers -/

/-- Numbers of a greater size count milliseconds. -/
def millisFrom : Nat := 20000000000

/-- The seconds from 1970 back to the start of the year zero. -/
def firstSecond : Int := -62167219200

/-- The seconds from 1970 to the end of the year 9999. -/
def lastSecond : Int := 253402300799

/-- The moment a number of seconds and microseconds after the start of 1970. -/
def ofSeconds (seconds : Int) (micros : Nat) : Except String Moment :=
  let seconds := seconds + (micros / 1000000 : Nat)
  if seconds < firstSecond then .error "dates before 0000 are not supported as unix timestamps"
  else if lastSecond < seconds then
    .error "dates after 9999 are not supported as unix timestamps"
  else .ok (Moment.ofMicros (seconds * 1000000 + (micros % 1000000 : Nat)) (some 0))

/-- The moment a number of milliseconds and microseconds after the start of 1970. -/
def ofMillis (millis : Int) (micros : Nat) : Except String Moment :=
  ofSeconds (millis / 1000) ((millis % 1000).toNat * 1000 + micros)

/-- The moment of an integer. -/
def ofInteger (stamp : Int) : Except String Moment :=
  if stamp.natAbs ≤ millisFrom then ofSeconds stamp 0 else ofMillis stamp 0

/-- A number of units, of which there are so many in one, times a factor, to the nearest
integer; the product is a double before it is rounded, and a half goes up. -/
def scaled (units factor : Nat) : Nat :=
  match Double.ofRatio false (units * factor) Double.unitsPerOne with
  | .signed _ rank =>
    (2 * Double.units rank.val + Double.unitsPerOne) / (2 * Double.unitsPerOne)
  | .nan => 0

/-- The moment of a double: the whole seconds below it, and the rest to the microsecond; or the
whole milliseconds below it, when it is too large for seconds. -/
def ofDouble (x : Double) : Except String Moment :=
  match x.split? with
  | some (neg, whole, fraction) =>
    let (floor, above) : Int × Nat :=
      if !neg then (whole, fraction)
      else if fraction = 0 then (-(whole : Int), 0)
      else (-(whole + 1 : Int), Double.unitsPerOne - fraction)
    if whole < millisFrom ∨ (whole = millisFrom ∧ fraction = 0) then
      ofSeconds floor (scaled above 1000000)
    else ofMillis floor (scaled above 1000)
  | none =>
    match x with
    | .nan => .error "NaN values not permitted"
    | .signed neg _ => ofInteger (if neg then -Value.wordBound else Value.wordBound)

/-- The sign of a text, and what follows it. -/
def signAndRest : List Char → Bool × List Char
  | '-' :: cs => (true, cs)
  | '+' :: cs => (false, cs)
  | cs => (false, cs)

/-- The number written by decimal digits. -/
def ofDigits (ds : List Char) : Nat := ds.foldl (fun n c => n * 10 + (c.toNat - '0'.toNat)) 0

/-- An integer of 64 bits: an optional sign and digits. -/
def integer? (cs : List Char) : Option Int :=
  let (neg, ds) := signAndRest cs
  if ds.isEmpty ∨ !ds.all Char.isDigit then none
  else
    let n : Int := if neg then -(ofDigits ds : Int) else ofDigits ds
    if -Value.wordBound ≤ n ∧ n < Value.wordBound then some n else none

/-- The power of ten that ends a text; none at the end is zero. -/
def power? : List Char → Option Int
  | [] => some 0
  | e :: cs =>
    let (neg, ds) := signAndRest cs
    if (e = 'e' ∨ e = 'E') ∧ !ds.isEmpty ∧ ds.all Char.isDigit then
      some (if neg then -(ofDigits ds : Int) else ofDigits ds)
    else none

/-- A number with a point among its digits, and possibly a power of ten behind them. -/
def decimal? (cs : List Char) : Option Double :=
  let (neg, ds) := signAndRest cs
  let whole := ds.takeWhile Char.isDigit
  match ds.dropWhile Char.isDigit with
  | '.' :: rest =>
    let fraction := rest.takeWhile Char.isDigit
    if whole.isEmpty ∧ fraction.isEmpty then none
    else (power? (rest.dropWhile Char.isDigit)).map fun power =>
      Double.ofDecimal neg (ofDigits (whole ++ fraction)) (power - fraction.length)
  | _ => none

/-! ## Values -/

/-- The moment of a text. -/
def readText (text : String) : Except String Moment :=
  let cs := text.toList
  match dateTime? text with
  | some m => .ok m
  | none =>
    match integer? cs with
    | some n => ofInteger n
    | none =>
      match (decimal? cs).bind fun x => (ofDouble x).toOption with
      | some m => .ok m
      | none => do
        let (date, rest) ← readDate text
        if rest.isEmpty then return ⟨date, 0, 0, 0, 0, none⟩
        else throw "unexpected extra characters at the end of the input"

/-- The moment of an integer of any size; one that fits into no double is not even a number. -/
def readInteger (n : Int) : Except Fault Moment :=
  if Double.ofInt n = Double.infinity (n < 0) then .error .kind
  else (ofInteger n).mapError .number

/-- A moment, unless it lies in the year zero. -/
def inCalendar (m : Moment) : Except Fault Moment :=
  if m.date.year = 0 then .error (.number "year 0 is out of range") else .ok m

/-- The moment of a value. -/
def read (v : Value) : Except Fault Moment := do
  let m ← match v with
    | .text s => if Text.hasHalf s then .error .unread else (readText s).mapError .text
    | .int n => readInteger n
    | .double x => (ofDouble x).mapError .number
    | _ => .error .kind
  inCalendar m

end Provision.Time
