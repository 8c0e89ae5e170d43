import Provision.Table
import Provision.Text.Lines
import Provision.Text.Names
import Provision.Text.Quoted

/-!
# Drivers by name

A driver is named by a module and an attribute of it, `module:attribute`. A module has a dotted
name, and every part in front of a dot has to be importable too. The attribute is a driver, or a
factory that makes one without being given anything.

What modules there are is told by a catalogue. A driver is given by the state in which it starts,
of a type `σ`. Importing a module or calling a factory may fail in a way of its own, which is passed
on as it is: the type `ε` is for such failures.

* `Catalogue.load`: the driver of a given name.
* `Catalogue.Error`: why there is none.
-/

namespace Provision

/-- What calling a factory comes to. -/
inductive Product (σ ε : Type) where
  | driver (start : σ)
  /-- Something that is no driver. -/
  | other
  /-- The call does not fit the factory. -/
  | refused (why : String)
  | failed (e : ε)

/-- An attribute of a module. -/
inductive Attribute (σ ε : Type) where
  | driver (start : σ)
  | factory (product : Product σ ε)
  /-- Something that is neither a driver nor a factory. -/
  | other

/-- A module that can be imported. -/
structure Module (σ ε : Type) where
  attributes : Table (Attribute σ ε)
  /-- Whether there may be modules below it. -/
  isPackage : Bool := false

/-- What importing a module comes to. -/
inductive Import (σ ε : Type) where
  | found (m : Module σ ε)
  | refused (why : String)
  | failed (e : ε)

/-- The modules there are, by their full names. -/
abbrev Catalogue (σ ε : Type) := Table (Import σ ε)

namespace Catalogue

/-- Why there is no driver of a given name. -/
inductive Error (ε : Type) where
  | malformed (spec : String)
  | unimportable (owner why : String)
  | noAttribute (owner attr : String)
  | unbuildable (spec why : String)
  | notDriver (spec : String)
  /-- A name that starts with a dot, with nothing that it could be relative to. -/
  | relative (owner : String)
  | failed (e : ε)
deriving Repr

variable {σ ε : Type}

/-- The wording of an error in the configuration; the others are none. -/
def Error.configuration? : Error ε → Option String
  | .malformed spec => some ("Driver must be given as 'module:attribute', got '" ++ spec ++ "'")
  | .unimportable owner why => some ("Cannot import driver module '" ++ owner ++ "': " ++ why)
  | .noAttribute owner attr =>
    some ("Module '" ++ owner ++ "' has no attribute '" ++ attr ++ "'")
  | .unbuildable spec why => some ("Cannot build driver from '" ++ spec ++ "': " ++ why)
  | .notDriver spec => some ("'" ++ spec ++ "' is not a Driver")
  | .relative _ => none
  | .failed _ => none

/-- The wording of the refusal of a relative name. -/
def relativeMessage (owner : String) : String :=
  "the 'package' argument is required to perform a relative import for " ++ Text.quoted owner

/-- The names of a module and of those above it, from the top. -/
def ancestry (owner : String) : List String :=
  let parts := Text.split '.' owner
  (List.range parts.length).map fun i => ".".intercalate (parts.take (i + 1))

/-- The wording for a module that does not exist, given the one above it. -/
def missingMessage (above : Option (String × Module σ ε)) (name : String) : String :=
  "No module named " ++ Text.quoted name ++
    match above with
    | some (parent, m) =>
      if m.isPackage then "" else "; " ++ Text.quoted parent ++ " is not a package"
    | none => ""

/-- The last of some modules, each imported below the one before. -/
def importBelow (c : Catalogue σ ε) (owner : String) :
    Option (String × Module σ ε) → List String → Except (Error ε) (Option (Module σ ε))
  | above, [] => .ok (above.map Prod.snd)
  | above, name :: names =>
    match c.get? name with
    | none => .error (.unimportable owner (missingMessage above name))
    | some (.refused why) => .error (.unimportable owner why)
    | some (.failed e) => .error (.failed e)
    | some (.found m) => importBelow c owner (some (name, m)) names

/-- The module of a given name. -/
def importModule (c : Catalogue σ ε) (owner : String) : Except (Error ε) (Module σ ε) :=
  if owner.toList.head? = some '.' then .error (.relative owner)
  else match importBelow c owner none (ancestry owner) with
    | .error e => .error e
    | .ok (some m) => .ok m
    | .ok none =>
      .error (.unimportable owner (missingMessage (none : Option (String × Module σ ε)) owner))

/-- The driver that an attribute is or makes. -/
def driverOf (spec : String) : Attribute σ ε → Except (Error ε) σ
  | .driver start => .ok start
  | .other => .error (.notDriver spec)
  | .factory (.driver start) => .ok start
  | .factory .other => .error (.notDriver spec)
  | .factory (.refused why) => .error (.unbuildable spec why)
  | .factory (.failed e) => .error (.failed e)

/-- The driver of a given name. -/
def load (c : Catalogue σ ε) (spec : String) : Except (Error ε) σ :=
  match Text.cut ':' spec with
  | none => .error (.malformed spec)
  | some (owner, attr) =>
    if owner = "" || attr = "" then .error (.malformed spec)
    else match c.importModule owner with
      | .error e => .error e
      | .ok m =>
        match m.attributes.get? attr with
        | none => .error (.noAttribute owner attr)
        | some a => driverOf spec a

end Catalogue

end Provision
