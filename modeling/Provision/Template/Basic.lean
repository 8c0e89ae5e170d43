import Provision.Text.Names
import Provision.Value.Show

/-!
# Templates

A template is a list of statements, in the order of their execution. A statement is an
expression, or a declaration that binds the result of an expression to a name. An expression
asks for an action on an entity; each of its parameters is given in one of four ways:

* a literal value,
* a **reference** to a name declared by an earlier statement,
* an **alias** that a backend can turn into a value,
* a **hole** that has to be filled before the run.

`Expression.set` turns a parameter of any kind into a literal one. `Expression.text` is the
canonical text of an expression, if all its values have one; it does not depend on the order of
the tables.
-/

namespace Provision

/-- What happened when a statement was executed; an empty error is a success. -/
structure Outcome where
  result : Value := .null
  error : String := ""
deriving Repr, Inhabited

/-- Whether the statement failed. -/
def Outcome.failed (o : Outcome) : Bool := o.error ≠ ""

/-- A declared name; its value is written once in a run. -/
structure Identifier where
  name : String := ""
  value : Value := .null
  bound : Bool := false
deriving Repr, Inhabited

/-- The refusal to bind a name twice, by the name. -/
structure AlreadyBound where
  name : String
deriving DecidableEq, Repr

/-- The wording of the refusal. -/
def AlreadyBound.message (e : AlreadyBound) : String :=
  "identifier '" ++ e.name ++ "' is already bound"

/-- The name with its value, if it has none yet. -/
def Identifier.bind (i : Identifier) (value : Value) : Except AlreadyBound Identifier :=
  if i.bound then .error ⟨i.name⟩ else .ok { i with value := value, bound := true }

/-- An action on an entity with its parameters. -/
structure Expression where
  action : String := ""
  entity : String := ""
  params : Table Value := []
  refs : Table String := []
  aliases : Table String := []
  holes : Table String := []
deriving Repr, Inhabited

namespace Expression

/-- Makes a parameter a literal one. -/
def set (e : Expression) (name : String) (value : Value) : Expression :=
  { e with
    params := e.params.set name value
    refs := e.refs.erase name
    aliases := e.aliases.erase name
    holes := e.holes.erase name }

/-- Makes several parameters literal ones, in order. -/
def setAll (e : Expression) (values : List (String × Value)) : Expression :=
  values.foldl (fun e v => e.set v.1 v.2) e

/-- Whether neither holes nor aliases are left. -/
def isResolved (e : Expression) : Bool := e.holes.isEmpty && e.aliases.isEmpty

/-- The four tables with their names, in the order in which they are searched. -/
def sources (e : Expression) : List (String × List String) :=
  [("params", e.params.keys), ("refs", e.refs.keys), ("aliases", e.aliases.keys),
   ("holes", e.holes.keys)]

/-- The names of a table after those seen before; a name that was seen is a clash of two
sources. -/
def clashIn (source : String) : List String → Table String → Except (String × String × String)
    (Table String)
  | [], seen => .ok seen
  | name :: names, seen =>
    match seen.get? name with
    | some earlier => .error (name, earlier, source)
    | none => clashIn source names (seen ++ [(name, source)])

/-- The first name that occurs in two sources, with both. -/
def clash? (e : Expression) : Option (String × String × String) :=
  match e.sources.foldlM (fun seen s => clashIn s.1 s.2 seen) [] with
  | .ok _ => none
  | .error found => some found

/-- The wording of a clash. -/
def clashMessage : String × String × String → String
  | (name, first, second) =>
    "parameter '" ++ name ++ "' appears in both " ++ first ++ " and " ++ second

/-- A literal parameter in the canonical text. -/
def literalText (p : String × Value) : Except TextFault String := do
  return p.1 ++ "=" ++ (← p.2.lineText)

/-- The parts of the canonical text: action, entity, then literals, references, aliases and
holes, each kind sorted by name. -/
def parts (e : Expression) : Except TextFault (List String) := do
  let literals ← e.params.sortedEntries.mapM literalText
  return [e.action, e.entity].filter (· ≠ "") ++ literals ++
    e.refs.sortedEntries.map (fun p => p.1 ++ "=$" ++ p.2) ++
    e.aliases.sortedEntries.map (fun p => p.1 ++ "=@" ++ p.2) ++
    e.holes.sortedEntries.map (fun p => p.1 ++ "=\x7b" ++ p.2 ++ "\x7d")

/-- The canonical text. -/
def text (e : Expression) : Except TextFault String := " ".intercalate <$> e.parts

end Expression

/-- What a statement does. -/
inductive Node where
  | expression (e : Expression)
  | declaration (left : Identifier) (right : Expression)
deriving Repr, Inhabited

namespace Node

/-- The expression that is executed. -/
def body : Node → Expression
  | .expression e => e
  | .declaration _ right => right

/-- The node with its expression changed. -/
def mapExpression (f : Expression → Expression) : Node → Node
  | .expression e => .expression (f e)
  | .declaration left right => .declaration left (f right)

/-- The declared name, if the node is a declaration. -/
def identifier? : Node → Option Identifier
  | .expression _ => none
  | .declaration left _ => some left

/-- The canonical text. -/
def text : Node → Except TextFault String
  | .expression e => e.text
  | .declaration left right => (left.name ++ " = " ++ ·) <$> right.text

end Node

/-- A line of a template, with what happened when it ran. -/
structure Statement where
  node : Node
  line : String := ""
  outcome : Outcome := {}
deriving Repr, Inhabited

namespace Statement

/-- The expression that is executed. -/
def expression (s : Statement) : Expression := s.node.body

/-- The statement with its expression changed. -/
def mapExpression (f : Expression → Expression) (s : Statement) : Statement :=
  { s with node := s.node.mapExpression f }

/-- The declared identifier, if the statement is a declaration. -/
def identifier? (s : Statement) : Option Identifier := s.node.identifier?

/-- The statement with the canonical text as its line, if it has none. -/
def withLine (s : Statement) : Except TextFault Statement :=
  if s.line = "" then (fun line => { s with line }) <$> s.node.text else .ok s

/-- Whether the statement failed. -/
def failed (s : Statement) : Bool := s.outcome.failed

end Statement

/-- Statements in the order of execution. -/
structure Template where
  statements : List Statement := []
deriving Repr, Inhabited

namespace Template

/-- The expressions, in order. -/
def expressions (t : Template) : List Expression := t.statements.map Statement.expression

/-- The declared names, in order. -/
def declaredNames (t : Template) : List String :=
  t.statements.filterMap fun s => s.identifier?.map (·.name)

/-- Whether some statement failed. -/
def hasErrors (t : Template) : Bool := t.statements.any Statement.failed

end Template

end Provision
