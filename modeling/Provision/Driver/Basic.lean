import Provision.Log
import Provision.Text.Names
import Provision.Value.Show

/-!
# Drivers

A driver is the way to a backend. It is asked to perform an action on an entity with given
parameters; it answers with a value, with a fault, or by ending the whole program. It may
keep a state of its own from one request to the next, and it may note things in the log.
-/

namespace Provision

/-- An action on an entity, with the parameters it is given. -/
structure Request where
  action : String
  entity : String
  params : Table Value
deriving Repr, Inhabited

/-- A name that no earlier statement declares. -/
def undeclaredMessage (name : String) : String :=
  "unresolved reference '$" ++ name ++ "': not declared by an earlier statement"

/-- Why a request failed. -/
inductive Fault where
  /-- A failure of the backend; the label names its kind. -/
  | backend (label text : String)
  /-- No function for the action on the entity. -/
  | unsupported (action entity : String)
  /-- A name that no earlier statement declares. -/
  | undeclared (name : String)
deriving DecidableEq, Repr

namespace Fault

/-- The name of the kind of fault. -/
def label : Fault → String
  | .backend label _ => label
  | .unsupported _ _ => "UnsupportedActionError"
  | .undeclared _ => "UnresolvedReferenceError"

/-- The wording of a fault, possibly empty. -/
def message : Fault → String
  | .backend _ text => text
  | .unsupported action entity => "unsupported action/entity: " ++ action ++ " " ++ entity
  | .undeclared name => undeclaredMessage name

/-- The wording of a fault, or the name of its kind if there is none. -/
def summary (f : Fault) : String := if f.message = "" then f.label else f.message

/-- The fault of a request about which nothing can be noted. -/
def ofText (f : TextFault) : Fault := .backend f.label f.message

end Fault

/-- The answer to a request. -/
inductive Reply where
  | value (v : Value)
  | fault (f : Fault)
  /-- The backend ends the program. -/
  | exit (message : String)
deriving Repr, Inhabited

/-- A reply, the notes made on the way, and whether a function of the backend was run. -/
structure Response where
  reply : Reply
  notes : List Log.Entry := []
  ran : Bool := false
deriving Repr, Inhabited

/-- A driver with a state of type `σ`. -/
structure Driver (σ : Type) where
  perform : σ → Request → Response × σ

/-- A driver with the two settings that every driver has: whether it is in dry run, and where it
logs. What it makes of them is up to the driver. -/
structure Backend (σ : Type) extends Driver σ where
  setDryRun : Bool → σ → σ
  setLogger : String → σ → σ
  isDryRun : σ → Bool

end Provision
