import Provision.Text.Integer
import Provision.Value.Basic

/-!
# Clock readings

A clock gives seconds since 1970 as a dynamic value. A reading is multiplied by a thousand as
its kind demands (an integer exactly, a double with one rounding, a truth value as zero or one,
a text by repetition) and then cut off to whole milliseconds.
-/

namespace Provision.RunId

/-- Why a reading gives no time. -/
inductive ClockError where
  /-- The kind of value has no product. -/
  | noProduct (kind : String)
  /-- The product is no number. -/
  | noNumber (kind : String)
  | nan
  | infinite
  /-- The repeated text is no integer. -/
  | text (f : Text.IntegerFault)
deriving DecidableEq, Repr

/-- The wording of an error. -/
def ClockError.message : ClockError → String
  | .noProduct kind => "unsupported operand type(s) for *: '" ++ kind ++ "' and 'int'"
  | .noNumber kind =>
    "int() argument must be a string, a bytes-like object or a real number, not '" ++ kind ++ "'"
  | .nan => "cannot convert float NaN to integer"
  | .infinite => "cannot convert float infinity to integer"
  | .text f => f.message

/-- A text repeated a number of times. -/
def repeated (count : Nat) (text : String) : String :=
  String.join (List.replicate count text)

/-- The milliseconds of a reading. -/
def milliseconds : Value → Except ClockError Int
  | .bool b => .ok (if b then 1000 else 0)
  | .int n => .ok (n * 1000)
  | .double x =>
    match x.mulNat 1000 with
    | .nan => .error .nan
    | y => match y.split? with
      | none => .error .infinite
      | some (neg, whole, _) => .ok (if neg then -(whole : Int) else whole)
  | .text s => (Text.readInteger (repeated 1000 s)).mapError .text
  | .list _ => .error (.noNumber "list")
  | .null => .error (.noProduct "NoneType")
  | .table _ => .error (.noProduct "dict")
  | .failed _ => .error (.noProduct "Failed")
  | .handle _ _ _ => .error (.noProduct "Handle")

end Provision.RunId
