import Provision.Double.Basic
import Provision.Table
import Provision.Text.Integer

/-!
# Values

Parameters and results are dynamic: whatever a stored document can hold, and two kinds of value
that only a run produces. A **failed mark** is what a declaration is bound to when its statement
failed; a **handle** stands for any other object of a backend, of which only the texts are known,
and the value that is stored in its place.

Not every value can be turned into text: integers may have too many digits, values may be nested
too deep, and a handle may refuse. `TextFault` is for these.
-/

namespace Provision

/-- Why a value has no text. -/
inductive TextFault where
  /-- An integer has more digits than `Text.digitLimit`. -/
  | tooManyDigits
  /-- Lists and tables are nested deeper than `Value.depthLimit`. -/
  | tooDeep
  /-- An object refuses; the label names the kind of its refusal. -/
  | refused (label text : String)
deriving DecidableEq, Repr

namespace TextFault

/-- The name of the kind of fault. -/
def label : TextFault → String
  | .tooManyDigits => "ValueError"
  | .tooDeep => "RecursionError"
  | .refused label _ => label

/-- The wording of a fault, possibly empty. -/
def message : TextFault → String
  | .tooManyDigits =>
    Text.limitMessage ++ "; use sys.set_int_max_str_digits() to increase the limit"
  | .tooDeep => "maximum recursion depth exceeded while getting the repr of an object"
  | .refused _ text => text

end TextFault

/-- A dynamic value. -/
inductive Value where
  | null
  | bool (b : Bool)
  | int (n : Int)
  | double (x : Double)
  | text (s : String)
  | list (items : List Value)
  | table (entries : List (String × Value))
  | failed (error : String)
  /-- An object with its text, its text in lists and tables, and what is stored in its place. -/
  | handle (text quoted : Except TextFault String) (stored : Except TextFault Value)
deriving Repr, Inhabited

namespace Value

/-- An integer fits into a word of 64 bits if it is below this, and not below its negative. -/
def wordBound : Int := 9223372036854775808

/-- How many lists and tables may be nested in each other. -/
def depthLimit : Nat := 990

/-- The digits of an integer, with its sign. -/
def integerText (n : Int) : Except TextFault String :=
  if (Nat.toDigits 10 n.natAbs).length ≤ Text.digitLimit then .ok (toString n)
  else .error .tooManyDigits

mutual

/-- Equality as a comparison sees it: both zeros are equal, and a "not a number", which a
document can only spell in one way, is equal to itself. -/
def same : Value → Value → Bool
  | .null, .null => true
  | .bool a, .bool b => a == b
  | .int a, .int b => a == b
  | .double a, .double b => a = b || a.sameNumber b
  | .text a, .text b => a == b
  | .list a, .list b => sameItems a b
  | .table a, .table b => sameEntries a b
  | .failed a, .failed b => a == b
  | .handle (.ok a) _ _, .handle (.ok b) _ _ => a == b
  | _, _ => false

/-- Item by item equality. -/
def sameItems : List Value → List Value → Bool
  | [], [] => true
  | v :: vs, w :: ws => same v w && sameItems vs ws
  | _, _ => false

/-- Entry by entry equality. -/
def sameEntries : List (String × Value) → List (String × Value) → Bool
  | [], [] => true
  | (k, v) :: vs, (l, w) :: ws => k == l && same v w && sameEntries vs ws
  | _, _ => false

end

end Value

end Provision
