import Provision.Double.Basic

/-!
# The shortest decimal of a double

A finite double is written with the fewest digits that read back as the same double; among the
decimals of that length the nearest one is taken. The search runs over the digit counts 1 to 17
on the exact decimal expansion, and every candidate is checked by reading it back.

* `Double.shortest`: digits and exponent of that decimal.
* `Double.text`: its layout, positional from `1e-4` up to but excluding `1e16`.
-/

namespace Provision.Double

/-- A finite rank exactly, as digits and a power of ten. -/
def exactDecimal (rank : Nat) : Nat × Int :=
  if 1074 ≤ scale rank then (significand rank * Nat.pow 2 (scale rank - 1074), 0)
  else (significand rank * Nat.pow 5 (1074 - scale rank), -(1074 - scale rank : Nat))

/-- The number of decimal digits, at least one. -/
def digitCount (n : Nat) : Nat := (Nat.toDigits 10 n).length

/-- The decimals with `count` digits on both sides of `digits * 10 ^ exponent`, the nearer one
first and the even one first in a tie. -/
def neighbours (digits : Nat) (exponent : Int) (length count : Nat) : List (Nat × Int) :=
  let cut := length - count
  let q := digits / Nat.pow 10 cut
  let r := 2 * (digits % Nat.pow 10 cut)
  let e := exponent + (cut : Int)
  if r < Nat.pow 10 cut ∨ (r = Nat.pow 10 cut ∧ q % 2 = 0) then [(q, e), (q + 1, e)]
  else [(q + 1, e), (q, e)]

/-- Moves zeros from the end of the digits to the exponent. -/
def trim : Nat → Nat × Int → Nat × Int
  | 0, d => d
  | fuel + 1, (digits, exponent) =>
    if digits ≠ 0 ∧ digits % 10 = 0 then trim fuel (digits / 10, exponent + 1)
    else (digits, exponent)

/-- The first candidate, by growing length, that reads back as the rank. -/
def shortest (rank : Nat) : Nat × Int :=
  let (digits, exponent) := exactDecimal rank
  let length := digitCount digits
  let found := (List.range 17).findSome? fun k =>
    (neighbours digits exponent length (k + 1)).find? fun (d, e) =>
      decide (ofDecimal false d e = ofRank false rank)
  trim 17 (found.getD (digits, exponent))

/-- How a decimal is laid out. -/
structure Layout where
  /-- The least power of ten of the leading digit that is written positionally. -/
  least : Int
  /-- The first power of ten of the leading digit that is not. -/
  past : Int
  /-- The least number of exponent digits. -/
  exponentWidth : Nat
  /-- The word for "not a number". -/
  nanWord : String
  /-- The word for infinity. -/
  infinityWord : String

/-- Values in messages: positional from `1e-4` up to `1e16`, two exponent digits. -/
def plainLayout : Layout := ⟨-4, 16, 2, "nan", "inf"⟩

/-- Values in stored documents: as in messages, with the long words. -/
def storedLayout : Layout := { plainLayout with nanWord := "NaN", infinityWord := "Infinity" }

/-- Zeros in front up to a given width. -/
def padZeros (width : Nat) (ds : List Char) : List Char :=
  List.replicate (width - ds.length) '0' ++ ds

/-- Digits laid out with a decimal point or an exponent; there is always one of the two. -/
def layOut (l : Layout) (digits : Nat) (exponent : Int) : String :=
  let ds := Nat.toDigits 10 digits
  let point : Int := ds.length + exponent
  if l.least < point ∧ point ≤ l.past then
    if point ≤ 0 then
      String.ofList ('0' :: '.' :: (List.replicate (-point).toNat '0' ++ ds))
    else if point < ds.length then
      String.ofList (ds.take point.toNat ++ '.' :: ds.drop point.toNat)
    else
      String.ofList (ds ++ List.replicate (point.toNat - ds.length) '0' ++ ['.', '0'])
  else
    let power := point - 1
    let sign := if power < 0 then '-' else '+'
    let mantissa := match ds with
      | d :: e :: rest => d :: '.' :: e :: rest
      | _ => ds
    String.ofList
      (mantissa ++ 'e' :: sign :: padZeros l.exponentWidth (Nat.toDigits 10 power.natAbs))

/-- The text of a double. -/
def render (l : Layout) : Double → String
  | .nan => l.nanWord
  | .signed neg rank =>
    let body :=
      if rank.val = top then l.infinityWord
      else if rank.val = 0 then "0.0"
      else
        let (digits, exponent) := shortest rank.val
        layOut l digits exponent
    if neg then "-" ++ body else body

/-- The text of a double in messages. -/
def text (x : Double) : String := render plainLayout x

end Provision.Double
