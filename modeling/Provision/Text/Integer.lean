import Provision.Text.Blank
import Provision.Text.Quoted

/-!
# Integers in decimal digits

A digit may come from any script; the ten digits of a script follow each other. An integer has
at most `Text.digitLimit` digits.

* `Text.digit?`: the value of a digit.
* `Text.readInteger`: the integer that a text spells.
-/

namespace Provision.Text

/-- The zeros of all scripts. -/
def zeros : List Nat :=
  [0x30, 0x660, 0x6F0, 0x7C0, 0x966, 0x9E6, 0xA66, 0xAE6, 0xB66, 0xBE6, 0xC66, 0xCE6, 0xD66,
    0xDE6, 0xE50, 0xED0, 0xF20, 0x1040, 0x1090, 0x17E0, 0x1810, 0x1946, 0x19D0, 0x1A80, 0x1A90,
    0x1B50, 0x1BB0, 0x1C40, 0x1C50, 0xA620, 0xA8D0, 0xA900, 0xA9D0, 0xA9F0, 0xAA50, 0xABF0,
    0xFF10, 0x104A0, 0x10D30, 0x11066, 0x110F0, 0x11136, 0x111D0, 0x112F0, 0x11450, 0x114D0,
    0x11650, 0x116C0, 0x11730, 0x118E0, 0x11950, 0x11C50, 0x11D50, 0x11DA0, 0x16A60, 0x16AC0,
    0x16B50, 0x1D7CE, 0x1D7D8, 0x1D7E2, 0x1D7EC, 0x1D7F6, 0x1E140, 0x1E2F0, 0x1E950, 0x1FBF0]

/-- The value of a digit of any script. -/
def digit? (c : Char) : Option Nat :=
  (zeros.find? fun first => first ≤ c.toNat && c.toNat < first + 10).map (c.toNat - ·)

/-- The values of digits; a single underscore may stand between two. -/
def digitsOf? : List Char → Option (List Nat)
  | [] => none
  | [c] => (digit? c).map fun d => [d]
  | c :: '_' :: cs => (digit? c).bind fun d => (digitsOf? cs).map (d :: ·)
  | c :: cs => (digit? c).bind fun d => (digitsOf? cs).map (d :: ·)

/-- The number of some digits. -/
def numberOf (ds : List Nat) : Nat := ds.foldl (fun n d => n * 10 + d) 0

/-- The most digits an integer may have. -/
def digitLimit : Nat := 4300

/-- Why a text spells no integer. -/
inductive IntegerFault where
  | notInteger (text : String)
  | tooManyDigits (count : Nat)
deriving DecidableEq, Repr

/-- The wording for an integer with too many digits. -/
def limitMessage : String :=
  "Exceeds the limit (" ++ toString digitLimit ++ " digits) for integer string conversion"

/-- The wording of a fault. -/
def IntegerFault.message : IntegerFault → String
  | .notInteger text =>
    "invalid literal for int() with base 10: " ++ String.ofList ((quoted text).toList.take 200)
  | .tooManyDigits count =>
    limitMessage ++ ": value has " ++ toString count ++
      " digits; use sys.set_int_max_str_digits() to increase the limit"

/-- The integer that a text spells, possibly with a sign, and with blanks around it. -/
def readInteger (s : String) : Except IntegerFault Int :=
  let (neg, cs) := match trim s.toList with
    | '-' :: cs => (true, cs)
    | '+' :: cs => (false, cs)
    | cs => (false, cs)
  match digitsOf? cs with
  | none => .error (.notInteger s)
  | some ds =>
    if digitLimit < ds.length then .error (.tooManyDigits ds.length)
    else .ok (if neg then -(numberOf ds : Int) else numberOf ds)

end Provision.Text
