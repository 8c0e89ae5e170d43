import Provision.Json.Reader
import Provision.Json.Writer
import Provision.Shape.Basic
import Provision.Template.Basic

/-!
# Stored templates

A template is stored as a JSON document with one record for each of its parts. Reading checks
every field, gives a statement without a line its canonical text, and turns the record of a
failed mark back into the mark. A parameter name may stand in one of the four tables only.

* `Template.toJson`: the document of a template.
* `Template.ofJson`: the template of a document, or all that is wrong with it.
-/

namespace Provision

/-! ## Reading -/

/-- A failed mark. -/
def failedOfValue (v : Value) : Shape.Checked Value :=
  (Shape.record "Failed" v).andThen fun fields =>
    (fun _ error => Value.failed error)
      <$> Shape.optionalField fields "kind" () (Shape.literal "failed")
      <*> Shape.requiredField fields "error" Shape.text

/-- Whether a value is the record of a failed mark: exactly a kind, which is `failed`, and an
error. -/
def isFailedRecord : Value → Bool
  | .table es =>
    (match Table.get? es "kind" with
      | some (.text kind) => kind = "failed"
      | _ => false) &&
    Table.has es "error" && es.length = 2
  | _ => false

/-- The value of an identifier. -/
def restoreFailed (v : Value) : Shape.Checked Value :=
  if isFailedRecord v then failedOfValue v else .ok v

/-- An outcome. -/
def Outcome.ofValue (v : Value) : Shape.Checked Outcome :=
  (Shape.record "Outcome" v).andThen fun fields =>
    Outcome.mk
      <$> Shape.optionalField fields "result" .null Shape.any
      <*> Shape.optionalField fields "error" "" Shape.text

/-- An identifier. -/
def Identifier.ofValue (v : Value) : Shape.Checked Identifier :=
  (Shape.record "Identifier" v).andThen fun fields =>
    Identifier.mk
      <$> Shape.optionalField fields "name" "" Shape.text
      <*> Shape.optionalField fields "value" .null restoreFailed
      <*> Shape.optionalField fields "bound" false Shape.truth

/-- An expression, read from a value, without a name in two of its tables. -/
def Expression.checkNames (v : Value) (e : Expression) : Shape.Checked Expression :=
  match e.clash? with
  | none => .ok e
  | some found => .fail v (.refused (Expression.clashMessage found))

/-- An expression. -/
def Expression.ofValue (v : Value) : Shape.Checked Expression :=
  (Shape.record "Expression" v).andThen fun fields =>
    ((fun _ => Expression.mk)
      <$> Shape.optionalField fields "kind" () (Shape.literal "expression")
      <*> Shape.optionalField fields "action" "" Shape.text
      <*> Shape.optionalField fields "entity" "" Shape.text
      <*> Shape.optionalField fields "params" [] (Shape.table Shape.any)
      <*> Shape.optionalField fields "refs" [] (Shape.table Shape.text)
      <*> Shape.optionalField fields "aliases" [] (Shape.table Shape.text)
      <*> Shape.optionalField fields "holes" [] (Shape.table Shape.text)).andThen
        (Expression.checkNames v)

/-- A declaration. -/
def Node.declarationOfValue (v : Value) : Shape.Checked Node :=
  (Shape.record "Declaration" v).andThen fun fields =>
    (fun _ => Node.declaration)
      <$> Shape.optionalField fields "kind" () (Shape.literal "declaration")
      <*> Shape.optionalField fields "left" {} Identifier.ofValue
      <*> Shape.optionalField fields "right" {} Expression.ofValue

/-- A node, by its kind. -/
def Node.ofValue : Value → Shape.Checked Node
  | .table fields =>
    match Table.get? fields "kind" with
    | none => .fail (.table fields) (.noTag "kind")
    | some (.text "declaration") =>
      (Node.declarationOfValue (.table fields)).within (.key "declaration")
    | some (.text "expression") =>
      (Node.expression <$> Expression.ofValue (.table fields)).within (.key "expression")
    | some tag =>
      .fail (.table fields)
        (.unknownTag "kind" (Text.encodable (tag.orKind tag.plain)) ["declaration", "expression"])
  | v => .fail v .notTagged

/-- A statement, read from a value, with a line. -/
def Statement.checkLine (v : Value) (s : Statement) : Shape.Checked Statement :=
  match s.withLine with
  | .ok s => .ok s
  | .error f => .fail v (.refused f.message)

/-- A statement. -/
def Statement.ofValue (v : Value) : Shape.Checked Statement :=
  (Shape.record "Statement" v).andThen fun fields =>
    (Statement.mk
      <$> Shape.requiredField fields "node" Node.ofValue
      <*> Shape.optionalField fields "line" "" Shape.text
      <*> Shape.optionalField fields "outcome" {} Outcome.ofValue).andThen
        (Statement.checkLine v)

/-- The name of the record that holds a template. -/
def Template.recordName : String := "AST"

/-- A template. -/
def Template.ofValue (v : Value) : Shape.Checked Template :=
  (Shape.record Template.recordName v).andThen fun fields =>
    Template.mk <$> Shape.optionalField fields "statements" [] (Shape.items Statement.ofValue)

/-- Why a document cannot be read. -/
inductive DocumentError where
  | json (error : Json.Error)
  | shape (rejection : Shape.Rejection)
deriving DecidableEq, Repr

/-- The template of a document. -/
def Template.ofJson (text : String) : Except DocumentError Template := do
  let v ← (Json.read text).mapError .json
  ((Template.ofValue v).settle Template.recordName).mapError .shape

/-! ## Writing -/

/-- The record of an outcome. -/
def Outcome.toValue (o : Outcome) : Value :=
  .table [("result", o.result), ("error", .text o.error)]

/-- The record of an identifier. -/
def Identifier.toValue (i : Identifier) : Value :=
  .table [("name", .text i.name), ("value", i.value), ("bound", .bool i.bound)]

/-- A table of texts. -/
def textTable (t : Table String) : Value := .table (t.mapValues Value.text)

/-- The record of an expression. -/
def Expression.toValue (e : Expression) : Value :=
  .table [("kind", .text "expression"), ("action", .text e.action), ("entity", .text e.entity),
    ("params", .table e.params), ("refs", textTable e.refs), ("aliases", textTable e.aliases),
    ("holes", textTable e.holes)]

/-- The record of a node. -/
def Node.toValue : Node → Value
  | .expression e => e.toValue
  | .declaration left right =>
    .table [("kind", .text "declaration"), ("left", left.toValue), ("right", right.toValue)]

/-- The record of a statement. -/
def Statement.toValue (s : Statement) : Value :=
  .table [("node", s.node.toValue), ("line", .text s.line), ("outcome", s.outcome.toValue)]

/-- The records of statements. -/
def statementsValue (ss : List Statement) : Value := .list (ss.map Statement.toValue)

/-- The record of a template. -/
def Template.toValue (t : Template) : Value :=
  .table [("statements", statementsValue t.statements)]

/-- The document of a template. -/
def Template.toJson (t : Template) : Except TextFault String := Json.write t.toValue

/-! ## Comparing -/

/-- Whether two templates are equal as a comparison of their records sees it. -/
def Template.same (t u : Template) : Bool := t.toValue.same u.toValue

end Provision
