import Provision.Time.Calendar

/-!
# Moments

A moment is a date with a time of day to the microsecond, and the offset from universal time if
it is known. Its text is `YYYY-MM-DD HH:MM:SS`, with six digits of fraction when there is one,
and with the offset when there is one.
-/

namespace Provision.Time

/-- A date and a time of day; the offset is in seconds east of Greenwich. -/
structure Moment where
  date : Date
  hour : Nat
  minute : Nat
  second : Nat
  micro : Nat
  offset : Option Int
deriving DecidableEq, Repr, Inhabited

/-- A number with at least `width` digits. -/
def padded (width n : Nat) : String :=
  let ds := Nat.toDigits 10 n
  String.ofList (List.replicate (width - ds.length) '0' ++ ds)

/-- The moment a number of microseconds after the start of 1970. -/
def Moment.ofMicros (micros : Int) (offset : Option Int) : Moment :=
  let seconds := micros / 1000000
  let inDay := (seconds % 86400).toNat
  { date := dateOfDays (seconds / 86400)
    hour := inDay / 3600
    minute := inDay / 60 % 60
    second := inDay % 60
    micro := (micros % 1000000).toNat
    offset := offset }

/-- The text of an offset; seconds are shown only when there are any. -/
def offsetText (offset : Int) : String :=
  let n := offset.natAbs
  let seconds := if n % 60 = 0 then "" else ":" ++ padded 2 (n % 60)
  (if offset < 0 then "-" else "+") ++ padded 2 (n / 3600) ++ ":" ++ padded 2 (n / 60 % 60) ++
    seconds

/-- The text of a moment. -/
def Moment.text (m : Moment) : String :=
  padded 4 m.date.year ++ "-" ++ padded 2 m.date.month ++ "-" ++ padded 2 m.date.day ++ " " ++
    padded 2 m.hour ++ ":" ++ padded 2 m.minute ++ ":" ++ padded 2 m.second ++
    (if m.micro = 0 then "" else "." ++ padded 6 m.micro) ++
    (m.offset.map offsetText).getD ""

end Provision.Time
