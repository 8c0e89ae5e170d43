import Provision.Driver.Basic
import Provision.Template.Basic

/-!
# Scopes, and what a statement needs

The scope of a run holds the names declared so far, each with its latest value. A statement is
ready for the driver when all its references have a value that is not a failed mark, and no
hole or alias is left. References are looked up before anything else is judged, so a name that
is not declared is found whatever the order of the references.
-/

namespace Provision

/-- The names declared so far, with their latest values. -/
abbrev Scope := Table Value

namespace Scope

/-- The scope with a name bound. -/
def bind (scope : Scope) (name : String) (value : Value) : Scope := Table.set scope name value

/-- The value of a name, or the fault of an undeclared one. -/
def lookup (scope : Scope) (name : String) : Except Fault Value :=
  match Table.get? scope name with
  | some v => .ok v
  | none => .error (.undeclared name)

end Scope

/-- Why a statement is not handed to the driver. -/
inductive Obstacle where
  | failedReference (name error : String)
  | openHoles (names : List String)
  | openAliases (names : List String)
deriving DecidableEq, Repr

/-- The wording of an obstacle. -/
def Obstacle.message : Obstacle → String
  | .failedReference name error =>
    "reference '$" ++ name ++ "' points to a failed statement: " ++ error
  | .openHoles names => "unresolved hole(s): " ++ Text.listing names
  | .openAliases names => "unresolved alias(es): " ++ Text.listing names

/-- How an expression stands in a scope. -/
inductive Readiness where
  | undeclared (name : String)
  | blocked (obstacle : Obstacle)
  | ready (params : Table Value)
deriving Repr

namespace Expression

/-- The first reference to a name that is not declared. -/
def undeclared? (scope : Scope) (e : Expression) : Option String :=
  e.refs.values.find? fun name => !scope.has name

/-- The first reference to a failed statement, with its error. -/
def failedReference? (scope : Scope) (e : Expression) : Option (String × String) :=
  e.refs.values.findSome? fun name =>
    match scope.get? name with
    | some (.failed error) => some (name, error)
    | _ => none

/-- The literal parameters, followed by the references with their values. -/
def effectiveParams (scope : Scope) (e : Expression) : Table Value :=
  e.refs.foldl (fun params ref => params.set ref.1 ((scope.get? ref.2).getD .null)) e.params

/-- How the expression stands in a scope. -/
def readiness (scope : Scope) (e : Expression) : Readiness :=
  match e.undeclared? scope with
  | some name => .undeclared name
  | none =>
    match e.failedReference? scope with
    | some (name, error) => .blocked (.failedReference name error)
    | none =>
      if !e.holes.isEmpty then .blocked (.openHoles (Text.sorted e.holes.values))
      else if !e.aliases.isEmpty then .blocked (.openAliases (Text.sorted e.aliases.values))
      else .ready (e.effectiveParams scope)

end Expression

end Provision
