import Provision.Log
import Provision.Template.Basic

/-!
# Passes over a template

Before a run a template is completed by passes, each of which turns parameters into literal
ones and leaves everything else as it is:

* `Template.merge`: overrides, by entity and parameter;
* `Template.resolve`: values for holes, by the name of the hole;
* `Template.ask`: values for holes, one question for each;
* `Template.resolveAliases`: values for aliases, by the name of the alias.

What a pass cannot do is collected on the way: `Template.unfilled`, `Template.aliasesWithout`.
-/

namespace Provision

namespace Template

/-- The template with every expression changed. -/
def mapExpressions (f : Expression → Expression) (t : Template) : Template :=
  ⟨t.statements.map (Statement.mapExpression f)⟩

/-- The template with the expression of one statement changed. -/
def modifyAt (t : Template) (index : Nat) (f : Expression → Expression) : Template :=
  ⟨t.statements.modify index (Statement.mapExpression f)⟩

/-! ## What is left to do -/

/-- The aliases by parameter; a later expression counts. -/
def collectAliases (t : Template) : Table String :=
  t.expressions.foldl (fun found e => found.update e.aliases) []

/-- Adds a parameter to those that wait for a hole. -/
def addWaiting (waiting : Table (List String)) (param hole : String) : Table (List String) :=
  waiting.set hole ((waiting.get? hole).getD [] ++ [param])

/-- The parameters waiting for each hole, in the order of the template. -/
def waitingParams (t : Template) : Table (List String) :=
  t.expressions.foldl (fun w e => e.holes.foldl (fun w p => addWaiting w p.1 p.2) w) []

/-- A hole of a statement. -/
structure OpenHole where
  statement : Nat
  param : String
  hole : String
deriving DecidableEq, Repr

/-- The holes, in the order of the template. -/
def openHoles (t : Template) : List OpenHole :=
  t.statements.zipIdx.flatMap fun (s, i) => s.expression.holes.map fun (p, h) => ⟨i, p, h⟩

/-- The names of some holes, each once and sorted. -/
def holeNames (holes : List OpenHole) : List String :=
  Text.sorted (Text.distinct (holes.map OpenHole.hole))

/-! ## Overrides -/

/-- The entity and the parameter an override is for: the parts before and after the first
dot of its key. -/
def overrideTarget? (key : String) : Option (String × String) := Text.cut '.' key

/-- One override on one expression. -/
def override (key : String) (value : Value) (e : Expression) : Expression :=
  match overrideTarget? key with
  | some (entity, param) => if e.entity = entity then e.set param value else e
  | none => e

/-- The template with overrides applied to every expression of the entity. -/
def merge (overrides : Table Value) (t : Template) : Template :=
  overrides.foldl (fun t o => t.mapExpressions (override o.1 o.2)) t

/-- The name of the logger of the passes. -/
def logger : String := "stencil.template"

/-- What is noted about one override: how many statements it applied to. -/
def overrideNote (t : Template) (key : String) : Log.Entry :=
  match overrideTarget? key with
  | none => ⟨.debug, logger, "Ignoring override '" ++ key ++ "': expected 'entity.param'"⟩
  | some (entity, _) =>
    ⟨.debug, logger, "Override '" ++ key ++ "' applied to " ++
      toString (t.expressions.countP fun e => e.entity = entity) ++ " statement(s)"⟩

/-- What is noted while overrides are merged. -/
def mergeNotes (overrides : Table Value) (t : Template) : List Log.Entry :=
  overrides.map fun o => overrideNote t o.1

/-! ## Holes -/

/-- Fills holes of one expression, one after the other; one without a fill is added to those
that are left. -/
def fillHoles (fills : Table Value) (statement : Nat) :
    List (String × String) → Expression → List OpenHole → Expression × List OpenHole
  | [], e, left => (e, left)
  | (param, hole) :: holes, e, left =>
    match fills.get? hole with
    | some v => fillHoles fills statement holes (e.set param v) left
    | none => fillHoles fills statement holes e (left ++ [⟨statement, param, hole⟩])

/-- Fills the holes of statements, one after the other, the first of which has a given position. -/
def fillStatements (fills : Table Value) :
    Nat → List Statement → List OpenHole → List Statement × List OpenHole
  | _, [], left => ([], left)
  | i, s :: ss, left =>
    let (e, left) := fillHoles fills i s.expression.holes s.expression left
    let (ss', left) := fillStatements fills (i + 1) ss left
    (s.mapExpression (fun _ => e) :: ss', left)

/-- The template with all holes filled for which there is a fill, and those that have none. -/
def fillAll (fills : Table Value) (t : Template) : Template × List OpenHole :=
  let (ss, left) := fillStatements fills 0 t.statements []
  (⟨ss⟩, left)

/-- The template with all holes filled for which there is a fill. -/
def fill (fills : Table Value) (t : Template) : Template := (t.fillAll fills).1

/-- The holes that have no fill, in the order of the template. -/
def unfilled (fills : Table Value) (t : Template) : List OpenHole := (t.fillAll fills).2

/-- What is noted about holes without a fill. -/
def unfilledNotes (left : List OpenHole) : List Log.Entry :=
  if left.isEmpty then []
  else [⟨.warning, logger, toString left.length ++ " hole(s) left unresolved: " ++
    Value.bracketed "[" "]" ((holeNames left).map Text.quoted)⟩]

/-- The refusal to go on with holes that have no fill. -/
structure MissingFills where
  holes : List OpenHole
deriving DecidableEq, Repr

/-- The wording of the refusal. -/
def MissingFills.message (e : MissingFills) : String :=
  "missing fills for holes: " ++ Text.listing (holeNames e.holes)

/-- The filled template, with the holes that had no fill; a strict fill refuses these, and
leaves the template filled all the same. -/
def resolve (strict : Bool) (fills : Table Value) (t : Template) :
    Template × Except MissingFills (List OpenHole) :=
  let (t, left) := t.fillAll fills
  (t, if strict && !left.isEmpty then .error ⟨left⟩ else .ok left)

/-! ## Questions -/

/-- A questioner: given the name of a hole, it answers or gives up, and moves on. -/
abbrev Asker (σ ε : Type) := String → σ → Except ε Value × σ

/-- A pass that asks: the state of the questioner, the holes asked for, and the failure that
ended it. -/
structure Asking (σ ε : Type) where
  state : σ
  asked : List String := []
  failure : Option ε := none

/-- Asks for holes of one expression, one after the other, until the questioner gives up. -/
def askHoles {σ ε : Type} (ask : Asker σ ε) :
    List (String × String) → Expression → Asking σ ε → Expression × Asking σ ε
  | [], e, a => (e, a)
  | (param, hole) :: holes, e, a =>
    match ask hole a.state with
    | (.ok v, state) =>
      askHoles ask holes (e.set param v) { a with state, asked := a.asked ++ [hole] }
    | (.error err, state) =>
      (e, { state, asked := a.asked ++ [hole], failure := some err })

/-- Asks for the holes of statements, one after the other, until the questioner gives up. -/
def askStatements {σ ε : Type} (ask : Asker σ ε) :
    List Statement → Asking σ ε → List Statement × Asking σ ε
  | [], a => ([], a)
  | s :: ss, a =>
    let (e, a) := askHoles ask s.expression.holes s.expression a
    let s' := s.mapExpression fun _ => e
    if a.failure.isSome then (s' :: ss, a)
    else
      let (ss', a) := askStatements ask ss a
      (s' :: ss', a)

/-- The template with every hole filled by a question of its own, in the order of the template.
When the questioner gives up, the holes answered so far stay filled. -/
def ask {σ ε : Type} (ask : Asker σ ε) (state : σ) (t : Template) : Template × Asking σ ε :=
  let (ss, a) := askStatements ask t.statements { state }
  (⟨ss⟩, a)

/-! ## Aliases -/

/-- Resolves aliases of one expression, one after the other; one without a value is added to those
that are missing, unless it is among them. -/
def resolveAliasesIn (values : Table Value) :
    List (String × String) → Expression → List String → Expression × List String
  | [], e, missing => (e, missing)
  | (param, name) :: aliases, e, missing =>
    match values.get? name with
    | some v => resolveAliasesIn values aliases (e.set param v) missing
    | none =>
      resolveAliasesIn values aliases e
        (if missing.contains name then missing else missing ++ [name])

/-- Resolves the aliases of statements, one after the other. -/
def resolveAliasesAll (values : Table Value) :
    List Statement → List String → List Statement × List String
  | [], missing => ([], missing)
  | s :: ss, missing =>
    let (e, missing) := resolveAliasesIn values s.expression.aliases s.expression missing
    let (ss', missing) := resolveAliasesAll values ss missing
    (s.mapExpression (fun _ => e) :: ss', missing)

/-- The template with all aliases resolved for which there is a value. -/
def resolveAliases (values : Table Value) (t : Template) : Template :=
  ⟨(resolveAliasesAll values t.statements []).1⟩

/-- The aliases without a value, in the order of first occurrence. -/
def aliasesWithout (values : Table Value) (t : Template) : List String :=
  (resolveAliasesAll values t.statements []).2

end Template

end Provision
