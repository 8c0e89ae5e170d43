import Provision.Literal.Reader

/-!
# Handlers

A tag that starts with an at sign binds a handler to a stretch of text: a name, possibly with
points, and arguments in parentheses. Parameters of any other form stand for arguments only. The
arguments must be a literal; without parentheses there are none.
-/

namespace Provision.Display

/-- Why the parameters of a handler cannot be read. -/
inductive HandlerFault where
  /-- The arguments are no expression. -/
  | expression (arguments parameters : String) (f : Literal.Fault)
  /-- The arguments are no literal. -/
  | value (parameters : String) (r : Literal.Refusal)
deriving DecidableEq, Repr

/-- The wording of a fault. -/
def HandlerFault.message : HandlerFault → String
  | .expression arguments parameters f =>
    "error parsing " ++ Text.quoted arguments ++ " in " ++ Text.quoted parameters ++ "; " ++
      f.message
  | .value parameters r => "error parsing " ++ Text.quoted parameters ++ "; " ++ r.message

/-- Whether characters are one line in parentheses. -/
def isParenthesised (cs : List Char) : Bool :=
  2 ≤ cs.length && cs.head? = some '(' && cs.getLast? = some ')' && !cs.contains '\n'

/-- The arguments in the parameters of a handler. -/
def handlerArguments (parameters : String) : String :=
  let cs := Text.trim parameters.toList
  let rest := cs.dropWhile fun c => Text.isWordChar c || c = '.'
  if rest.isEmpty then "()"
  else if isParenthesised rest then String.ofList rest
  else String.ofList cs

/-- Whether the parameters of a handler can be read. -/
def checkHandler (parameters : String) : Except HandlerFault Unit :=
  let arguments := handlerArguments parameters
  match Literal.read arguments with
  | .ok () => .ok ()
  | .error (.fault f) => .error (.expression arguments parameters f)
  | .error (.refusal r) => .error (.value parameters r)

end Provision.Display
