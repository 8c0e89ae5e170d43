import Provision.Text.Unencodable
import Provision.Value.Show

/-!
# Shapes of stored data

A record is read from a value field by field. Every field is checked, and all issues are
collected in the order of the fields, each with the path from the outermost record.

* `Shape.Checked`: a result, or the issues that stand in its way; its sequencing collects the
  issues of both sides.
* `Shape.requiredField`, `Shape.optionalField`: a field of a record.
* `Shape.Rejection`: the issues of a whole record; `Shape.Rejection.message` is its wording.
-/

namespace Provision.Shape

/-- A step into a value. -/
inductive Step where
  | key (name : String)
  | item (index : Nat)
deriving DecidableEq, Repr

/-- What is wrong with a value. -/
inductive Cause where
  | missing
  | notText
  | unreadText
  | notTable
  | notList
  | notRecord (record : String)
  | notLiteral (expected : String)
  | notTruth
  | unreadTruth
  | notTagged
  | noTag (tag : String)
  | unknownTag (tag found : String) (known : List String)
  | refused (why : String)
  | notMoment
  | badMoment (why : String)
  | badDate (why : String)
  | frozen
deriving DecidableEq, Repr

/-- The code of a cause. -/
def Cause.code : Cause → String
  | .missing => "missing"
  | .notText => "string_type"
  | .unreadText => "string_unicode"
  | .notTable => "dict_type"
  | .notList => "list_type"
  | .notRecord _ => "model_type"
  | .notLiteral _ => "literal_error"
  | .notTruth => "bool_type"
  | .unreadTruth => "bool_parsing"
  | .notTagged => "model_attributes_type"
  | .noTag _ => "union_tag_not_found"
  | .unknownTag .. => "union_tag_invalid"
  | .refused _ => "value_error"
  | .notMoment => "datetime_type"
  | .badMoment _ => "datetime_parsing"
  | .badDate _ => "datetime_from_date_parsing"
  | .frozen => "frozen_instance"

/-- The wording of a cause. -/
def Cause.message : Cause → String
  | .missing => "Field required"
  | .notText => "Input should be a valid string"
  | .unreadText =>
    "Input should be a valid string, unable to parse raw data as a unicode string"
  | .notTable => "Input should be a valid dictionary"
  | .notList => "Input should be a valid list"
  | .notRecord record => "Input should be a valid dictionary or instance of " ++ record
  | .notLiteral expected => "Input should be '" ++ expected ++ "'"
  | .notTruth => "Input should be a valid boolean"
  | .unreadTruth => "Input should be a valid boolean, unable to interpret input"
  | .notTagged => "Input should be a valid dictionary or object to extract fields from"
  | .noTag tag => "Unable to extract tag using discriminator '" ++ tag ++ "'"
  | .unknownTag tag found known =>
    "Input tag '" ++ found ++ "' found using '" ++ tag ++
      "' does not match any of the expected tags: " ++
      ", ".intercalate (known.map fun k => "'" ++ k ++ "'")
  | .refused why => "Value error, " ++ why
  | .notMoment => "Input should be a valid datetime"
  | .badMoment why => "Input should be a valid datetime, " ++ why
  | .badDate why => "Input should be a valid datetime or date, " ++ why
  | .frozen => "Instance is frozen"

/-- A value as it is named in a complaint: by its kind and its quoted form. -/
structure Found where
  kind : String
  shown : String
deriving DecidableEq, Repr

/-- How a value is named in a complaint. -/
def found (v : Value) : Found := ⟨v.kindName, v.orKind v.quoted⟩

/-- Something wrong at a place, and what was found there. -/
structure Issue where
  path : List Step
  cause : Cause
  found : Found
deriving DecidableEq, Repr

/-- A result, or the issues in its way. -/
inductive Checked (α : Type) where
  | ok (value : α)
  | bad (issues : List Issue)
deriving Repr

namespace Checked

variable {α β : Type}

/-- The function applied to the argument; the issues of both are kept, in order. -/
def apply : Checked (α → β) → Checked α → Checked β
  | .ok f, .ok a => .ok (f a)
  | .ok _, .bad issues => .bad issues
  | .bad issues, .ok _ => .bad issues
  | .bad first, .bad second => .bad (first ++ second)

instance : Applicative Checked where
  pure := .ok
  seq f a := apply f (a ())

/-- A further check of a result without issues. -/
def andThen (c : Checked α) (f : α → Checked β) : Checked β :=
  match c with
  | .ok a => f a
  | .bad issues => .bad issues

/-- The issues moved one step down. -/
def within (step : Step) : Checked α → Checked α
  | .ok a => .ok a
  | .bad issues => .bad (issues.map fun i => { i with path := step :: i.path })

/-- A result with one issue at a value itself. -/
def fail (v : Value) (cause : Cause) : Checked α := .bad [⟨[], cause, Shape.found v⟩]

end Checked

/-! ## Fields -/

/-- A field that must be present. -/
def requiredField {α : Type} (record : Table Value) (name : String) (check : Value → Checked α) :
    Checked α :=
  match record.get? name with
  | none => .bad [⟨[.key name], .missing, found (.table record)⟩]
  | some v => (check v).within (.key name)

/-- A field with a default. -/
def optionalField {α : Type} (record : Table Value) (name : String) (default : α)
    (check : Value → Checked α) : Checked α :=
  match record.get? name with
  | none => .ok default
  | some v => (check v).within (.key name)

/-- The fields of a record of a given name. -/
def record (name : String) : Value → Checked (Table Value)
  | .table entries => .ok entries
  | v => .fail v (.notRecord name)

/-! ## Kinds of value -/

/-- Any value at all. -/
def any (v : Value) : Checked Value := .ok v

/-- A text. -/
def text : Value → Checked String
  | .text s => .ok s
  | v => .fail v .notText

/-- One fixed text. -/
def literal (expected : String) : Value → Checked Unit
  | .text s =>
    if s = expected then .ok ()
    else if Text.hasHalf s then .fail (.text s) .unreadText
    else .fail (.text s) (.notLiteral expected)
  | v => .fail v (.notLiteral expected)

/-- The entries of a table, each value checked. -/
def entries {α : Type} (check : Value → Checked α) :
    List (String × Value) → Checked (Table α)
  | [] => .ok []
  | (k, v) :: rest =>
    (fun a t => (k, a) :: t) <$> (check v).within (.key (Text.encodable k)) <*>
      entries check rest

/-- A table with checked values. -/
def table {α : Type} (check : Value → Checked α) : Value → Checked (Table α)
  | .table es => entries check es
  | v => .fail v .notTable

/-- The items of a list from a given index on, each checked. -/
def itemsFrom {α : Type} (check : Value → Checked α) : Nat → List Value → Checked (List α)
  | _, [] => .ok []
  | i, v :: vs =>
    (fun a as => a :: as) <$> (check v).within (.item i) <*> itemsFrom check (i + 1) vs

/-- A list with checked items. -/
def items {α : Type} (check : Value → Checked α) : Value → Checked (List α)
  | .list vs => itemsFrom check 0 vs
  | v => .fail v .notList

/-- The words that are read as true. -/
def trueWords : List String := ["1", "on", "t", "true", "y", "yes"]

/-- The words that are read as false. -/
def falseWords : List String := ["0", "off", "f", "false", "n", "no"]

/-- The truth value of a word, in either case. -/
def truthOfWord? (s : String) : Option Bool :=
  let word := s.toLower
  if trueWords.contains word then some true
  else if falseWords.contains word then some false
  else none

/-- The truth value of an integer. -/
def truthOfInt? (n : Int) : Option Bool :=
  if n = 0 then some false else if n = 1 then some true else none

/-- Whether a double is an integer that fits into a word with its sign reversed, too. -/
def isSmallInteger (x : Double) : Bool :=
  match x.split? with
  | some (_, whole, fraction) => fraction = 0 && (whole : Int) < Value.wordBound
  | none => false

/-- A truth value: itself, zero or one, or a word. What could be an integer or a word, but is
another one, is told apart from what could not. -/
def truth (v : Value) : Checked Bool :=
  let settle (b : Option Bool) (otherwise : Cause) : Checked Bool :=
    match b with
    | some b => .ok b
    | none => .fail v otherwise
  match v with
  | .bool b => .ok b
  | .int n => settle (truthOfInt? n)
      (if -Value.wordBound ≤ n ∧ n < Value.wordBound then .unreadTruth else .notTruth)
  | .double x =>
    settle (if x.sameNumber (Double.ofInt 0) then some false
      else if x.sameNumber (Double.ofInt 1) then some true else none)
      (if isSmallInteger x then .unreadTruth else .notTruth)
  | .text s => settle (truthOfWord? s)
      (if Text.hasHalf s then .unreadText else .unreadTruth)
  | _ => .fail v .notTruth

/-! ## Whole records -/

/-- The issues of a record of a given name. -/
structure Rejection where
  record : String
  issues : List Issue
deriving DecidableEq, Repr

/-- Why a rejection cannot be put into words: the first refusal of a rule with a text that cannot
be encoded. -/
def Rejection.unencodable? (r : Rejection) : Option Text.Unencodable :=
  r.issues.findSome? fun i =>
    match i.cause with
    | .refused why => Text.unencodable? why
    | _ => none

/-! ### Wording -/

/-- A step in the wording of a path; a name with a point in it stands in backquotes. -/
def Step.text : Step → String
  | .key name => if name.toList.contains '.' then "`" ++ name ++ "`" else name
  | .item index => toString index

/-- The most bytes of a shown value in a complaint. -/
def shownLimit : Nat := 50

/-- As many characters as fit into a number of bytes. -/
def fitting : Nat → List Char → List Char
  | _, [] => []
  | room, c :: cs => if c.utf8Size ≤ room then c :: fitting (room - c.utf8Size) cs else []

/-- A text of many bytes with its middle left out. -/
def abridged (s : String) : String :=
  if s.utf8ByteSize ≤ shownLimit then s
  else
    let half := (shownLimit + 1) / 2
    String.ofList (fitting half s.toList ++ "...".toList ++
      (fitting (half - 1) s.toList.reverse).reverse)

/-- The lines about an issue: its path, what is wrong and what was found, and where the manual
explains it, if the address of a manual is known. -/
def Issue.lines (manual : String) (i : Issue) : List String :=
  (if i.path.isEmpty then [] else [".".intercalate (i.path.map Step.text)]) ++
  ["  " ++ i.cause.message ++ " [type=" ++ i.cause.code ++ ", input_value=" ++
    abridged i.found.shown ++ ", input_type=" ++ i.found.kind ++ "]"] ++
  if manual = "" then [] else ["    For further information visit " ++ manual ++ i.cause.code]

/-- The first line of a rejection's wording. -/
def Rejection.headline (r : Rejection) : String :=
  toString r.issues.length ++
    (if r.issues.length = 1 then " validation error for " else " validation errors for ") ++
    r.record

/-- The wording of a rejection. -/
def Rejection.message (manual : String) (r : Rejection) : String :=
  "\n".intercalate (r.headline :: r.issues.flatMap (Issue.lines manual))

/-- A checked record, or its rejection. -/
def Checked.settle {α : Type} (name : String) : Checked α → Except Rejection α
  | .ok a => .ok a
  | .bad issues => .error ⟨name, issues⟩

end Provision.Shape
