import Provision.Template.Basic
import Provision.Time.Moment

/-!
# Reports

A report records one run: its identifier, the statements that were processed with their
outcomes and bound names, the times of start and end, and the reason if the run was aborted.
-/

namespace Provision

/-- The record of one run. -/
structure Report where
  id : String
  statements : List Statement
  started : Time.Moment
  finished : Option Time.Moment
  aborted : String := ""
deriving Repr, Inhabited

namespace Report

/-- Whether some statement failed. -/
def hasErrors (r : Report) : Bool := r.statements.any Statement.failed

/-- The number of statements that failed. -/
def failedCount (r : Report) : Nat := r.statements.countP Statement.failed

/-- The number of statements that succeeded. -/
def succeededCount (r : Report) : Nat := r.statements.length - r.failedCount

/-- The positions of the statements that failed. -/
def failedPositions (r : Report) : List Nat :=
  (r.statements.zipIdx.filter fun s => s.1.failed).map Prod.snd

/-- The name and value of a statement's declaration, if it was bound. -/
def binding? (s : Statement) : Option (String × Value) :=
  s.identifier?.bind fun i => if i.bound then some (i.name, i.value) else none

/-- Every bound name with its last value. -/
def bindings (r : Report) : Table Value := Table.ofEntries (r.statements.filterMap binding?)

end Report

end Provision
