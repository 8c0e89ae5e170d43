import Provision.Literal.Escape
import Provision.Literal.Failure
import Provision.Literal.Quotation

/-!
# Expressions

Of an expression only what makes it a literal is kept, and for the rest the name of its kind and
its parts. Parts of expressions, such as the arguments of a call, are nodes too.

* `Literal.Node`: an expression or a part of one.
* `Literal.Node.depth`: how many nodes are inside each other.
* `Literal.joinTexts`: quoted texts that follow each other.
* `Literal.check`: whether an expression is a literal.
-/

namespace Provision.Literal

/-- An expression or a part of one. -/
inductive Node where
  | name (s : String)
  | number (imaginary : Bool)
  /-- A constant that is no number, by the name of its kind. -/
  | constant (kind : String)
  | text (q : Quotation)
  | tuple (items : List Node)
  | set (items : List Node)
  | table (entries : List Node)
  | pair (key value : Node)
  /-- What two stars take over from a table. -/
  | unpacked (x : Node)
  | starred (x : Node)
  /-- A sum or a difference. -/
  | sum (left right : Node)
  /-- A plus or a minus in front of an expression. -/
  | signed (x : Node)
  | comparison (left : Node) (membership : Bool) (others : List Node)
  | call (arguments : List Node)
  | arguments (items : List Node)
  | namedArgument (value : List Node)
  /-- A set without elements, which is made by a call. -/
  | emptySet
  | other (kind : String) (parts : List Node)
deriving Repr

/-- The name of the kind of an expression. -/
def Node.kind : Node → String
  | .name _ => "name"
  | .number _ => "literal"
  | .constant kind => kind
  | .text _ => "literal"
  | .tuple _ => "tuple"
  | .set _ => "set display"
  | .table _ => "dict literal"
  | .starred _ => "starred"
  | .sum _ _ => "expression"
  | .signed _ => "expression"
  | .comparison _ _ _ => "comparison"
  | .call _ => "function call"
  | .emptySet => "function call"
  | .other kind _ => kind
  | .pair _ _ => "expression"
  | .unpacked _ => "expression"
  | .arguments _ => "expression"
  | .namedArgument _ => "expression"

mutual

/-- The first part of an expression that no loop can bind. -/
def Node.badTarget? : Node → Option Node
  | .name _ => none
  | .other "attribute" _ => none
  | .tuple items => badTargetIn? items
  | .starred x => x.badTarget?
  | .comparison left membership _ => if membership then left.badTarget? else none
  | x => some x

/-- The first part of some expressions that no loop can bind. -/
def badTargetIn? : List Node → Option Node
  | [] => none
  | x :: xs =>
    match x.badTarget? with
    | some bad => some bad
    | none => badTargetIn? xs

end

mutual

/-- How many nodes are inside each other. -/
def Node.depth : Node → Nat
  | .name _ | .number _ | .constant _ | .text _ | .emptySet => 1
  | .tuple items | .set items | .table items => depthOf items + 1
  | .pair key value => max key.depth value.depth
  | .unpacked x => x.depth
  | .starred x | .signed x => x.depth + 1
  | .sum left right => max left.depth right.depth + 1
  | .comparison left _ others => max left.depth (depthOf others) + 1
  | .call items | .arguments items => depthOf items
  | .namedArgument value => depthOf value + 1
  | .other _ parts => depthOf parts + 1

/-- How many nodes are inside each other in some. -/
def depthOf : List Node → Nat
  | [] => 0
  | x :: xs => max x.depth (depthOf xs)

end

/-! ## Quoted texts -/

/-- The fault of a quoted text without fields, if it has one. -/
def Quotation.fault? (q : Quotation) : Option Fault :=
  if q.bytes then
    if q.body.any (128 ≤ ·.toNat) then some .foreignByte
    else if q.raw then none else byteEscapeFault? 0 q.body
  else if q.raw || q.formatted then none
  else escapeFault? q.body

/-- The expressions in the fields of quoted texts that follow each other, given those of a single
one. All of the texts are bytes, or none. -/
def fieldsOf (fields : Quotation → Except Failure (List Node)) (bytes : Bool) :
    List Node → Except Failure (List Node)
  | .text q :: xs => do
    if let some f := q.fault? then throw (.fault f)
    if q.bytes ≠ bytes then throw (.fault .mixedTexts)
    let first ← if q.formatted then fields q else pure []
    let more ← fieldsOf fields bytes xs
    pure (first ++ more)
  | _ => .ok []

/-- Quoted texts that follow each other are one text. -/
def joinTexts (fields : Quotation → Except Failure (List Node)) (xs : List Node) :
    Except Failure Node := do
  let bytes := match xs with
    | .text q :: _ => q.bytes
    | _ => false
  let formatted := xs.any fun
    | .text q => q.formatted
    | _ => false
  let inner ← fieldsOf fields bytes xs
  pure (if formatted then .other "f-string expression" [.other "field" inner]
    else .constant "literal")

/-! ## Literals -/

/-- Whether a number is imaginary; nothing for what is no number. -/
def Node.number? : Node → Option Bool
  | .number imaginary => some imaginary
  | _ => none

/-- The same for a number that may have a sign. -/
def Node.signedNumber? : Node → Option Bool
  | .signed x => x.number?
  | x => x.number?

mutual

/-- Whether an expression is a literal: constants, numbers, and tuples, sets and tables of
literals. Elements of sets and keys of tables must not be sets or tables or hold some. The answer
for a literal is the kind of the first such part in it. -/
def check : Node → Except Refusal (Option String)
  | .constant _ => .ok none
  | .number _ => .ok none
  | .tuple items => checkItems items
  | .set items => do
    checkElements items
    pure (some "set")
  | .emptySet => .ok (some "set")
  | .table entries => do
    checkEntries entries
    pure (some "dict")
  | .signed x => if x.number?.isSome then .ok none else .error .malformed
  | .sum left right =>
    if left.signedNumber? = some false ∧ right.number? = some true then .ok none
    else .error .malformed
  | _ => .error .malformed

/-- Whether the items of a tuple are literals. -/
def checkItems : List Node → Except Refusal (Option String)
  | [] => .ok none
  | x :: xs => do
    let first ← check x
    let rest ← checkItems xs
    pure (first.or rest)

/-- Whether the elements of a set are literals. -/
def checkElements : List Node → Except Refusal Unit
  | [] => .ok ()
  | x :: xs => do
    match ← check x with
    | some kind => throw (.unhashable kind)
    | none => checkElements xs

/-- Whether the keys and values of a table are literals. -/
def checkEntries : List Node → Except Refusal Unit
  | [] => .ok ()
  | .pair key value :: xs => do
    let kind ← check key
    let _ ← check value
    match kind with
    | some kind => throw (.unhashable kind)
    | none => checkEntries xs
  | _ => .error .noKey

end

end Provision.Literal
