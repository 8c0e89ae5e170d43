/-!
# Binary64 numbers as ranks

A double is either "not a number" or a sign with a **rank**: the position of its magnitude in
the increasing list of all binary64 magnitudes, infinity being the last. Every rank is one
number and every number has one rank, so equality of doubles is equality of the data.

* `Double.units`: the magnitude of a finite rank as a multiple of `2 ^ -1074`.
* `Double.ofRatio`: the double nearest to a quotient, an exact tie going to the even rank.
* `Double.ofDecimal`: the double nearest to `digits * 10 ^ exponent`.
-/

namespace Provision

/-- The number of magnitudes with one exponent. -/
def Double.binade : Nat := Nat.pow 2 52

/-- The rank of infinity: 2046 binades of normal numbers above the one of subnormal ones. -/
def Double.top : Nat := 2047 * Double.binade

/-- A binary64 number with a single "not a number"; the top rank is infinity. -/
inductive Double where
  | nan
  | signed (neg : Bool) (rank : Fin (Double.top + 1))
deriving DecidableEq, Repr, Inhabited

namespace Double

/-- The integer significand of a rank. -/
def significand (rank : Nat) : Nat :=
  if rank < binade then rank else binade + rank % binade

/-- The binary exponent that goes with `significand`, counted from `-1074`. -/
def scale (rank : Nat) : Nat := rank / binade - 1

/-- The magnitude of a rank in units of `2 ^ -1074`. -/
def units (rank : Nat) : Nat := significand rank * Nat.pow 2 (scale rank)

/-- The number of units in one. -/
def unitsPerOne : Nat := Nat.pow 2 1074

/-- The quotient rounded to the nearest integer, an exact half to the even one. -/
def roundDiv (num den : Nat) : Nat :=
  let q := num / den
  let r := num % den
  if 2 * r < den then q
  else if den < 2 * r then q + 1
  else q + q % 2

/-- The rank nearest to `num / den` units, without an upper bound. A significand that rounds up
to `2 ^ 53` lands on the first rank of the next binade by itself. -/
def rankOfUnits (num den : Nat) : Nat :=
  let k := (num / den).log2 - 52
  k * binade + roundDiv num (den * Nat.pow 2 k)

/-- A signed number of a given rank, everything past the top being infinity. -/
def ofRank (neg : Bool) (rank : Nat) : Double :=
  .signed neg (Fin.ofNat (top + 1) (min rank top))

/-- The double nearest to `num / den`. -/
def ofRatio (neg : Bool) (num den : Nat) : Double :=
  ofRank neg (rankOfUnits (num * unitsPerOne) den)

/-- Zero of either sign. -/
def zero (neg : Bool) : Double := ofRank neg 0

/-- Infinity of either sign. -/
def infinity (neg : Bool) : Double := ofRank neg top

/-- The double nearest to `digits * 10 ^ exponent`. Powers of ten far outside the range are
settled by size alone, so that no huge power is ever computed. -/
def ofDecimal (neg : Bool) (digits : Nat) (exponent : Int) : Double :=
  if digits = 0 then zero neg
  else if 400 < exponent then infinity neg
  else if exponent < -(400 + digits.log2 + 1 : Int) then zero neg
  else match exponent with
    | .ofNat e => ofRatio neg (digits * Nat.pow 10 e) 1
    | .negSucc e => ofRatio neg digits (Nat.pow 10 (e + 1))

/-- The double nearest to an integer. -/
def ofInt (n : Int) : Double := ofRatio (n < 0) n.natAbs 1

/-- The product with a natural number, rounded once. -/
def mulNat (x : Double) (n : Nat) : Double :=
  match x with
  | .nan => .nan
  | .signed neg rank =>
    if rank.val = top then (if n = 0 then .nan else x)
    else ofRatio neg (units rank.val * n) unitsPerOne

/-- Equality of numbers: "not a number" differs from itself, and both zeros are equal. -/
def sameNumber : Double → Double → Bool
  | .signed a r, .signed b s => r = s && (a = b || r.val = 0)
  | _, _ => false

/-- The integer part and the magnitude's fraction in units, for a finite number. -/
def split? : Double → Option (Bool × Nat × Nat)
  | .nan => none
  | .signed neg rank =>
    if rank.val = top then none
    else some (neg, units rank.val / unitsPerOne, units rank.val % unitsPerOne)

end Double

end Provision
