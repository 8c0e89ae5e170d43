import Provision.Settings.Environment
import Provision.Settings.VariableFile
import Provision.Shape.Basic
import Provision.Template.Load

/-!
# Settings

Three settings may come from outside: the level of the log, the driver to use, and whether to do
a dry run. Each is the value of a variable, whose name may be spelled in either case. The
environment counts more than the file of variables in the working directory, and that more than
the default.

* `Settings.ofVariables`: the settings of two tables of variables.
* `Settings.read`: the settings of an environment and a store of files.
* `Settings.Cache`: settings that are read once and kept until they are read anew.
-/

namespace Provision

/-- The settings. -/
structure Settings where
  logLevel : String := "INFO"
  driver : Option String := none
  dryRun : Bool := false
deriving DecidableEq, Repr, Inhabited

namespace Settings

/-- The name of the record of settings. -/
def recordName : String := "StencilSettings"

/-- The variable of a setting, in lower case. -/
def variableName (field : String) : String := "stencil_" ++ field

/-- The variables by their names in lower case; of two spellings the later one counts. -/
def lowerNames (vars : Table (Option String)) : Table (Option String) :=
  Table.ofEntries (vars.map fun (name, v) => (name.toLower, v))

/-- The value given for a setting: that of the environment, or else that of the file. -/
def given (environment file : Table (Option String)) (field : String) : Option String :=
  let find (vars : Table (Option String)) : Option String :=
    ((lowerNames vars).get? (variableName field)).join
  (find environment).or (find file)

/-- The settings of the variables of the environment and of a file. -/
def ofVariables (environment file : Table (Option String)) : Except Shape.Rejection Settings :=
  let fields : Table Value := ["log_level", "driver", "dry_run"].filterMap fun field =>
    (given environment file field).map fun v => (field, .text v)
  ((fun level driver dryRun => { logLevel := level, driver, dryRun : Settings })
    <$> Shape.optionalField fields "log_level" "INFO" Shape.text
    <*> Shape.optionalField fields "driver" none (fun v => some <$> Shape.text v)
    <*> Shape.optionalField fields "dry_run" false Shape.truth).settle recordName

/-- Why settings could not be read. -/
inductive Error where
  | rejected (r : Shape.Rejection)
  | unreadable (f : Utf8.Fault)
deriving DecidableEq, Repr

/-- The path of the file of variables. -/
def file : Files.Path := { names := [".env"] }

/-- The variables of the file, if there is one. -/
def fileVariables (environment : Table String) (s : Files.Store) :
    Except Error (Table (Option String)) :=
  match s.readText file with
  | .ok content => .ok (VariableFile.variablesOf environment content)
  | .error (.bytes f) => .error (.unreadable f)
  | .error (.file _) => .ok []

/-- The settings of an environment and a store of files. -/
def read (environment : Table String) (s : Files.Store) : Except Error Settings :=
  match fileVariables environment s with
  | .error e => .error e
  | .ok vars => (ofVariables (environment.mapValues some) vars).mapError .rejected

/-! ## Settings that are kept -/

/-- Settings with the number of the reading they came from. -/
structure Reading where
  number : Nat
  settings : Settings
deriving DecidableEq, Repr

/-- The last reading that went well, and the number of the next one. -/
structure Cache where
  next : Nat := 0
  current : Option Reading := none
deriving DecidableEq, Repr

namespace Cache

variable {ε : Type}

/-- Settings read anew; when that fails, those of before are kept. -/
def reload (c : Cache) (fresh : Except ε Settings) : Cache × Except ε Reading :=
  match fresh with
  | .error e => (c, .error e)
  | .ok s => (⟨c.next + 1, some ⟨c.next, s⟩⟩, .ok ⟨c.next, s⟩)

/-- The settings that are kept, or else settings read anew. -/
def get (c : Cache) (fresh : Except ε Settings) : Cache × Except ε Reading :=
  match c.current with
  | some r => (c, .ok r)
  | none => c.reload fresh

end Cache

end Settings

end Provision
