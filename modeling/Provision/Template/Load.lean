import Provision.Files.Store
import Provision.Template.Stored
import Provision.Text.Utf8

/-!
# Loading a template from a file

* `Template.load`: the template stored at a path.
* `Template.LoadError`: what can go wrong on the way, with its wording.
-/

namespace Provision

/-- Why a file could not be read as text. -/
inductive ReadError where
  | file (f : Files.Failure)
  | bytes (f : Utf8.Fault)
deriving DecidableEq, Repr

/-- The wording of an error. -/
def ReadError.message : ReadError → String
  | .file f => f.message
  | .bytes f => f.message

/-- The text of the file at a path. -/
def Files.Store.readText (s : Files.Store) (p : Files.Path) : Except ReadError String :=
  match s.read p with
  | .error f => .error (.file f)
  | .ok bytes => ((Utf8.decode bytes).map Text.withLineFeeds).mapError .bytes

/-- Why a template could not be loaded. -/
inductive Template.LoadError where
  | notFound (path : Files.Path)
  | unreadable (path : Files.Path) (why : ReadError)
  | invalid (why : DocumentError)
  /-- It could not even be told whether there is a file. -/
  | unknown (why : Files.Failure)
deriving Repr

/-- The wording of the refusal of a document, given the address of the manual. -/
def DocumentError.message (manual : String) : DocumentError → String
  | .json e => "invalid template: " ++ e.message
  | .shape r => "invalid template: " ++
    ((r.unencodable?.map Text.Unencodable.message).getD (r.message manual))

/-- The wording of an error, given the address of the manual. -/
def Template.LoadError.message (manual : String) : Template.LoadError → String
  | .notFound path => "File not found: " ++ path.text
  | .unreadable path why => "Cannot read " ++ path.text ++ ": " ++ why.message
  | .invalid why => why.message manual
  | .unknown why => why.message

/-- The template stored at a path. -/
def Template.load (s : Files.Store) (p : Files.Path) : Except Template.LoadError Template :=
  match s.find p with
  | .error f =>
    if f.cause = .nameTooLong then .error (.unknown f) else .error (.notFound p)
  | .ok _ =>
    match s.readText p with
    | .error why => .error (.unreadable p why)
    | .ok content => (Template.ofJson content).mapError .invalid

end Provision
