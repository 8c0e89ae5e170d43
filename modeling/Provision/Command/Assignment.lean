import Provision.Json.Reader
import Provision.Text.Names

/-!
# Assignments on the command line

An assignment is `key=value`, cut at the first equals sign. The value is what its text denotes
as JSON, and the text itself when it is not JSON.
-/

namespace Provision.Command

/-- Why assignments are refused. -/
inductive AssignmentError where
  /-- An item without a key or without an equals sign. -/
  | notAssignment (item option : String)
  /-- A value nested too deep to be read. -/
  | tooDeep
deriving DecidableEq, Repr

/-- The wording of an error; exhausted depth has none. -/
def AssignmentError.message : AssignmentError → String
  | .notAssignment item _ => "expected key=value, got '" ++ item ++ "'"
  | .tooDeep => ""

/-- The value of a text given by the user. -/
def readValue (raw : String) : Except AssignmentError Value :=
  match Json.read raw with
  | .ok v => .ok v
  | .error .tooDeep => .error .tooDeep
  | .error _ => .ok (.text raw)

/-- One assignment. -/
def readAssignment (option item : String) : Except AssignmentError (String × Value) :=
  match Text.cut '=' item with
  | none => .error (.notAssignment item option)
  | some (key, raw) =>
    if key = "" then .error (.notAssignment item option)
    else (readValue raw).map fun v => (key, v)

/-- Assignments in order; a repeated key keeps its place and takes the last value. -/
def readAssignments (option : String) (items : List String) :
    Except AssignmentError (Table Value) :=
  (items.mapM (readAssignment option)).map Table.ofEntries

end Provision.Command
