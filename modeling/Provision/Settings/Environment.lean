import Provision.Table
import Provision.Text.Unencodable

/-!
# The environment

The environment is a table of variables. Names and values are made of bytes other than zero, and
a name is not empty and has no equals sign in it.

* `Settings.setVariable`: the environment with a variable set.
-/

namespace Provision.Settings

/-- Why a variable cannot be set. -/
inductive VariableFault where
  | unencodable (u : Text.Unencodable)
  | zeroByte
  | badName
  | noName
deriving DecidableEq, Repr

/-- The wording of the fault of a variable. -/
def VariableFault.message : VariableFault → String
  | .unencodable u => u.message
  | .zeroByte => "embedded null byte"
  | .badName => "illegal environment variable name"
  | .noName => "[Errno 22] Invalid argument"

/-- Why a variable cannot be set, if it cannot. -/
def variableFault? (name value : String) : Option VariableFault :=
  let hasZero (s : String) : Bool := s.toList.contains (Char.ofNat 0)
  match (Text.unencodableName? name).or (Text.unencodableName? value) with
  | some u => some (.unencodable u)
  | none =>
    if hasZero name || hasZero value then some .zeroByte
    else if name.toList.contains '=' then some .badName
    else if name.isEmpty then some .noName
    else none

/-- The environment with a variable set. -/
def setVariable (environment : Table String) (name value : String) :
    Except VariableFault (Table String) :=
  match variableFault? name value with
  | some f => .error f
  | none => .ok (environment.set name value)

/-- The environment of some variables. -/
def environmentOf (vars : List (String × String)) : Except VariableFault (Table String) :=
  vars.foldlM (fun environment (name, value) => setVariable environment name value) []

end Provision.Settings
