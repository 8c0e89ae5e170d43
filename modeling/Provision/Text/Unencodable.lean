import Provision.Text.Quoted

/-!
# Texts that cannot be encoded

Half of a surrogate pair has no encoding, so a text with a lone one cannot be written out. In names
that are made of bytes some halves stand for bytes that are no part of a character.

* `Text.unencodable?`: why a text cannot be encoded.
* `Text.unencodableName?`: why a name made of bytes cannot be.
-/

namespace Provision.Text

/-- The first stretch of lone halves in a text: its first half, where it starts, and where it
ends. -/
structure Unencodable where
  unit : Nat
  first : Nat
  last : Nat
deriving DecidableEq, Repr

/-- The first stretch of halves among points that starts with one of a kind, given how many points
stand before them. -/
def stretch? (isBad : Point → Bool) : Nat → List Point → Option Unencodable
  | _, [] => none
  | first, p :: ps =>
    if isBad p then some ⟨p.number, first, first + 1 + (ps.takeWhile (!·.isChar)).length⟩
    else stretch? isBad (first + 1) ps

/-- Why a text cannot be encoded, if it cannot. -/
def unencodable? (s : String) : Option Unencodable :=
  stretch? (fun p => !p.isChar) 0 (points s.toList)

/-- Whether a point stands for a byte that is no part of a character. -/
def Point.isByte : Point → Bool
  | .char _ => false
  | .half unit => 0xDC80 ≤ unit && unit ≤ 0xDCFF

/-- Why a name made of bytes cannot be encoded, if it cannot. -/
def unencodableName? (s : String) : Option Unencodable :=
  stretch? (fun p => !p.isChar && !p.isByte) 0 (points s.toList)

/-- The wording of the fault. -/
def Unencodable.message (u : Unencodable) : String :=
  "'utf-8' codec can't encode " ++
    (if u.first + 1 = u.last then
      "character '\\u" ++ String.ofList (hex 4 u.unit) ++ "' in position " ++ toString u.first
    else "characters in position " ++ toString u.first ++ "-" ++ toString (u.last - 1)) ++
    ": surrogates not allowed"

end Provision.Text
