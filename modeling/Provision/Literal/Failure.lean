import Provision.Literal.Fault

/-!
# Failures to read an expression

A fault may be found while a text is cut into words, or while the words are matched. What is told
depends on it: a broken word counts before what is wrong in front of it.

* `Literal.Failure`: how reading an expression fails.
* `Literal.Failure.inField`: the same where the expression stands in a field of a text.
-/

namespace Provision.Literal

/-- How reading an expression fails. -/
inductive Failure where
  /-- The words make no expression. -/
  | fault (f : Fault)
  /-- The words end before the expression does. -/
  | stopped (f : Fault)
  /-- Some characters are no word. -/
  | broken (f : Fault)
  /-- The expression goes too deep. -/
  | exhausted
deriving DecidableEq, Repr

/-- The failure of a text with a field in which an expression fails. -/
def Failure.inField : Failure → Failure
  | .fault f => .fault (.inField f)
  | .stopped f => .fault (.inField f)
  | .broken f => .fault f
  | .exhausted => .exhausted

end Provision.Literal
