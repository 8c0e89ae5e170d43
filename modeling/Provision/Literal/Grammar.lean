import Provision.Literal.Node

/-!
# The grammar of expressions

A grammar is a pattern for every rule. Of several alternatives the first that matches counts.
Besides the rules for expressions there are hints: patterns of expressions that are wrong in a
known way. Most of them are tried when a text is no expression, to say why.

Lists and subscripts have no place here: the expressions stand between brackets already.

* `Literal.Rule.pattern`: the pattern of every rule.
* `Literal.Rule.build`: the expression that a match of a rule stands for.
* `Literal.Hint.fault?`: the fault that a match of a hint shows.
-/

namespace Provision.Literal

/-- The rules of the grammar; the last ones are hints. -/
inductive Rule where
  | whole | expressions | expressionTuple | expression | plainExpression | conditional
  | starExpressions | starTuple | starExpression | starNamedExpressions | starNamedExpression
  | starredItem | binding | namedExpression | yielding
  | lambda | parameters | parameterList | slashedPlain | slashedDefaulted | restParameters
  | tableParameter | plainParameter | defaultedParameter | anyParameter | parameterName
  | defaultValue
  | disjunction | conjunction | inversion | negation | comparison | membership | comparing
  | bitOr | bitXor | bitAnd | shift | sum | term | factor | signed | inverted | power
  | awaited | awaiting | primary | attributeSuffix | callSuffix | atom | texts | group | tuple
  | generator
  | table | entries | entry | unpackedEntry | pair | set | tableClause | setClause
  | clauses | clause | targets | target | plainTarget | targetAtom | targetTuple | targetPrimary
  | targetSuffix
  | arguments | argumentList | namedArguments | namedOrStarred | namedOrUnpacked
  | starredArgument | namedArgument | unpackedArgument
  | expressionHint | legacyHint | namedHint | groupHint | clauseHint | tableClauseHint
  | entriesHint | pairHint | argumentsHint | namedArgumentHint | targetHint
  | parametersHint | defaultedStart | restHint | tableParameterHint | defaultHint
deriving DecidableEq, Hashable, Repr

/-- What a hint says about what it matches. -/
inductive Hint where
  | always (f : Fault)
  | forgottenComma
  | missingCall
  | bindsOther
  | assignsOther
  | assignsTarget
  | assignsWord
  | bareClause
  | plainAfterNamed
deriving DecidableEq, Repr

/-- What a single word may be. -/
inductive Test where
  | symbol (s : String)
  | name
  /-- A name that is reserved in some places. -/
  | softName
  | text
  | number
  | lineEnd
  | ending
deriving DecidableEq, Repr

/-- A pattern of words. -/
inductive Pattern where
  | nothing
  | word (t : Test)
  | rule (r : Rule)
  | both (a b : Pattern)
  | either (a b : Pattern)
  | many (a : Pattern)
  | ahead (a : Pattern)
  | notAhead (a : Pattern)
  /-- A pattern that counts as a step deeper, as every rule does. -/
  | inner (a : Pattern)
  /-- If this does not match, nor do the other alternatives of the rule. -/
  | commit (a : Pattern)
  /-- A match shows a fault, or that no alternative of the rule matches. -/
  | hint (h : Hint) (a : Pattern)

namespace Pattern

/-- Patterns one after the other. -/
def all : List Pattern → Pattern
  | [] => .nothing
  | [p] => p
  | p :: ps => .both p (all ps)

/-- The first pattern that matches. -/
def any : List Pattern → Pattern
  | [] => .notAhead .nothing
  | [p] => p
  | p :: ps => .either p (any ps)

/-- A pattern or nothing. -/
def maybe (p : Pattern) : Pattern := .either p .nothing

/-- Some patterns one after the other, a step deeper. -/
def part (ps : List Pattern) : Pattern := .inner (all ps)

/-- The first pattern that matches, a step deeper. -/
def choice (ps : List Pattern) : Pattern := .inner (any ps)

/-- A pattern any number of times. -/
def loop (p : Pattern) : Pattern := .inner (.many p)

/-- A pattern at least once. -/
def some (p : Pattern) : Pattern := .inner (.both p (.many p))

/-- A sign or a reserved word. -/
def sign (s : String) : Pattern := .word (.symbol s)

/-- A comma. -/
def comma : Pattern := sign ","

/-- A pattern at least once, with commas between. -/
def listed (p : Pattern) : Pattern := .inner (.both p (loop (.both comma p)))

/-- One of some signs. -/
def oneOf (signs : List String) : Pattern := any (signs.map sign)

/-- A rule with operators between its matches, the first of which are grouped first. -/
def chain (r : Rule) (operators : List String) : Pattern :=
  .both (.rule r) (.many (.both (oneOf operators) (.rule r)))

/-- A rule with a reserved word between its matches. -/
def series (r : Rule) (word : String) : Pattern :=
  any [.both (.rule r) (some (part [sign word, .rule r])), .rule r]

/-- A rule with commas between its matches, and one behind a single match. -/
def tupled (r : Rule) : Pattern :=
  any [all [.rule r, some (part [comma, .rule r]), maybe comma], all [.rule r, comma]]

/-- A pattern in front of a comma, or in front of the colon that ends parameters. -/
def parameter (ps : List Pattern) : Pattern :=
  any [all (ps ++ [comma]), all (ps ++ [.ahead (sign ":")])]

end Pattern

open Pattern in
/-- The pattern of a rule. -/
def Rule.pattern : Rule → Pattern
  | .whole => all [.rule .expressions, loop (.word .lineEnd), .word .ending]
  | .expressions => any [.rule .expressionTuple, .rule .expression]
  | .expressionTuple => tupled .expression
  | .expression =>
    any [.rule .expressionHint, .rule .legacyHint, .rule .conditional, .rule .disjunction,
      .rule .lambda]
  | .plainExpression => any [.rule .conditional, .rule .disjunction, .rule .lambda]
  | .conditional =>
    all [.rule .disjunction, sign "if", .rule .disjunction, sign "else", .rule .expression]
  | .starExpressions => any [.rule .starTuple, .rule .starExpression]
  | .starTuple => tupled .starExpression
  | .starExpression => any [.rule .starredItem, .rule .expression]
  | .starNamedExpressions => all [listed (.rule .starNamedExpression), maybe comma]
  | .starNamedExpression => any [.rule .starredItem, .rule .namedExpression]
  | .starredItem => all [sign "*", .rule .bitOr]
  | .binding => all [.word .name, sign ":=", .commit (.rule .expression)]
  | .namedExpression =>
    any [.rule .binding, .rule .namedHint, all [.rule .expression, .notAhead (sign ":=")]]
  | .yielding =>
    any [all [sign "yield", sign "from", .rule .expression],
      all [sign "yield", maybe (.rule .starExpressions)]]
  | .lambda =>
    all [sign "lambda", maybe (.rule .parameters), sign ":", .rule .expression]
  | .parameters => any [.rule .parametersHint, .rule .parameterList]
  | .parameterList =>
    let plain := Pattern.rule .plainParameter
    let defaulted := Pattern.rule .defaultedParameter
    let rest := maybe (.rule .restParameters)
    any [all [.rule .slashedPlain, loop plain, loop defaulted, rest],
      all [.rule .slashedDefaulted, loop defaulted, rest],
      all [some plain, loop defaulted, rest],
      all [some defaulted, rest],
      .rule .restParameters]
  | .slashedPlain => parameter [some (.rule .plainParameter), sign "/"]
  | .slashedDefaulted =>
    parameter [loop (.rule .plainParameter), some (.rule .defaultedParameter), sign "/"]
  | .restParameters =>
    let table := maybe (.rule .tableParameter)
    any [.rule .restHint,
      all [sign "*", .rule .plainParameter, loop (.rule .anyParameter), table],
      all [sign "*", comma, some (.rule .anyParameter), table],
      .rule .tableParameter]
  | .tableParameter =>
    any [.rule .tableParameterHint, all [sign "**", .rule .plainParameter]]
  | .plainParameter => parameter [.rule .parameterName]
  | .defaultedParameter => parameter [.rule .parameterName, .rule .defaultValue]
  | .anyParameter => parameter [.rule .parameterName, maybe (.rule .defaultValue)]
  | .parameterName => .word .name
  | .defaultValue => any [all [sign "=", .rule .expression], .rule .defaultHint]
  | .disjunction => series .conjunction "or"
  | .conjunction => series .inversion "and"
  | .inversion => any [.rule .negation, .rule .comparison]
  | .negation => all [sign "not", .rule .inversion]
  | .comparison =>
    any [all [.rule .bitOr, some (any [.rule .membership, .rule .comparing])], .rule .bitOr]
  | .membership => all [sign "in", .rule .bitOr]
  | .comparing =>
    all [any [oneOf ["==", "!=", "<=", "<", ">=", ">"], all [sign "not", sign "in"],
        all [sign "is", sign "not"], sign "is"], .rule .bitOr]
  | .bitOr => chain .bitXor ["|"]
  | .bitXor => chain .bitAnd ["^"]
  | .bitAnd => chain .shift ["&"]
  | .shift => chain .sum ["<<", ">>"]
  | .sum => chain .term ["+", "-"]
  | .term => chain .factor ["*", "/", "//", "%", "@"]
  | .factor => any [.rule .signed, .rule .inverted, .rule .power]
  | .signed => all [oneOf ["+", "-"], .rule .factor]
  | .inverted => all [sign "~", .rule .factor]
  | .power => all [.rule .awaited, maybe (all [sign "**", .rule .factor])]
  | .awaited => any [.rule .awaiting, .rule .primary]
  | .awaiting => all [sign "await", .rule .primary]
  | .primary =>
    all [.rule .atom,
      .many (any [.rule .attributeSuffix, .rule .generator, .rule .callSuffix])]
  | .attributeSuffix => all [sign ".", .word .name]
  | .callSuffix => all [sign "(", maybe (.rule .arguments), sign ")"]
  | .atom =>
    any [.word .name, oneOf ["True", "False", "None"], all [.ahead (.word .text), .rule .texts],
      .word .number,
      all [.ahead (sign "("), choice [.rule .tuple, .rule .group, .rule .generator]],
      all [.ahead (sign "\x7b"),
        choice [.rule .table, .rule .set, .rule .tableClause, .rule .setClause]],
      sign "..."]
  | .texts => some (.word .text)
  | .group =>
    any [all [sign "(", choice [.rule .yielding, .rule .namedExpression], sign ")"],
      .rule .groupHint]
  | .tuple =>
    all [sign "(", maybe (part [.rule .starNamedExpression, comma,
      maybe (.rule .starNamedExpressions)]), sign ")"]
  | .generator =>
    any [all [sign "(", choice [.rule .binding, all [.rule .expression, .notAhead (sign ":=")]],
      .rule .clauses, sign ")"], .rule .clauseHint]
  | .table =>
    any [all [sign "\x7b", maybe (.rule .entries), sign "\x7d"],
      all [sign "\x7b", .rule .entriesHint, sign "\x7d"]]
  | .entries => all [listed (.rule .entry), maybe comma]
  | .entry => any [.rule .unpackedEntry, .rule .pair]
  | .unpackedEntry => all [sign "**", .rule .bitOr]
  | .pair => all [.rule .expression, sign ":", .rule .expression]
  | .set => all [sign "\x7b", .rule .starNamedExpressions, sign "\x7d"]
  | .tableClause =>
    any [all [sign "\x7b", .rule .pair, .rule .clauses, sign "\x7d"], .rule .tableClauseHint]
  | .setClause =>
    any [all [sign "\x7b", .rule .namedExpression, .rule .clauses, sign "\x7d"],
      .rule .clauseHint]
  | .clauses => some (.rule .clause)
  | .clause =>
    let walk := all [sign "for", .rule .targets, sign "in", .commit (all [.rule .disjunction,
      loop (part [sign "if", .rule .disjunction])])]
    any [all [sign "async", walk], walk, .rule .targetHint]
  | .targets =>
    any [all [.rule .target, .notAhead comma],
      all [.rule .target, loop (part [comma, .rule .target]), maybe comma]]
  | .target =>
    any [all [sign "*", part [.notAhead (sign "*"), .rule .target]], .rule .plainTarget]
  | .plainTarget =>
    any [all [.rule .targetPrimary, sign ".", .word .name, .notAhead (.rule .targetSuffix)],
      .rule .targetAtom]
  | .targetAtom =>
    any [.word .name, all [sign "(", .rule .plainTarget, sign ")"],
      all [sign "(", maybe (.rule .targetTuple), sign ")"]]
  | .targetTuple => tupled .target
  | .targetPrimary =>
    let more := Pattern.ahead (.rule .targetSuffix)
    all [.rule .atom, more,
      .many (all [any [.rule .attributeSuffix, .rule .generator, .rule .callSuffix], more])]
  | .targetSuffix => oneOf ["(", "."]
  | .arguments =>
    any [all [.rule .argumentList, maybe comma, .ahead (sign ")")], .rule .argumentsHint]
  | .argumentList =>
    let plain := choice [.rule .starredArgument, all [
      choice [.rule .binding, all [.rule .expression, .notAhead (sign ":=")]],
      .notAhead (sign "=")]]
    any [all [listed plain, maybe (part [comma, .rule .namedArguments])], .rule .namedArguments]
  | .namedArguments =>
    let starred := listed (.rule .namedOrStarred)
    let unpacked := listed (.rule .namedOrUnpacked)
    any [all [starred, comma, unpacked], starred, unpacked]
  | .namedOrStarred =>
    any [.rule .namedArgumentHint, .rule .namedArgument, .rule .starredArgument]
  | .namedOrUnpacked =>
    any [.rule .namedArgumentHint, .rule .namedArgument, .rule .unpackedArgument]
  | .starredArgument => all [sign "*", .rule .expression]
  | .namedArgument => all [.word .name, sign "=", .rule .expression]
  | .unpackedArgument => all [sign "**", .rule .expression]
  | .expressionHint =>
    any [.hint .forgottenComma (all [
        .notAhead (choice [all [.word .name, .word .text], .word .softName]),
        .rule .disjunction, .rule .plainExpression]),
      .hint (.always .missingElse) (all [.rule .disjunction, sign "if", .rule .disjunction,
        .notAhead (choice [sign "else", sign ":"])])]
  | .legacyHint =>
    .hint .missingCall (all [.word .name, .notAhead (sign "("), .rule .starExpressions])
  | .namedHint =>
    let unassigned := Pattern.notAhead (choice [sign "=", sign ":="])
    any [.hint .bindsOther (all [.rule .expression, sign ":=", .rule .expression]),
      .hint (.always .assignsName) (all [.word .name, sign "=", .rule .bitOr, unassigned]),
      .hint .assignsOther (all [
        .notAhead (choice [.rule .tuple, .rule .generator, oneOf ["True", "None", "False"]]),
        .rule .bitOr, sign "=", .rule .bitOr, unassigned])]
  | .groupHint =>
    any [.hint (.always .starredGroup) (all [sign "(", .rule .starredArgument, sign ")"]),
      .hint (.always .doublyStarredGroup) (all [sign "(", sign "**", .rule .expression, sign ")"])]
  | .clauseHint =>
    any [.hint (.always .unpacksInClause) (all [oneOf ["(", "\x7b"], .rule .starredArgument,
        .rule .clauses]),
      .hint (.always .bareTarget) (all [sign "\x7b", .rule .starNamedExpression, comma,
        .rule .starNamedExpressions, .rule .clauses]),
      .hint (.always .bareTarget) (all [sign "\x7b", .rule .starNamedExpression, comma,
        .rule .clauses])]
  | .tableClauseHint =>
    .hint (.always .unpacksTableInClause) (all [sign "\x7b", sign "**", .rule .bitOr,
      .rule .clauses, sign "\x7d"])
  | .entriesHint =>
    any [all [listed (.rule .entry), comma, .rule .pairHint],
      .hint (.always .starredEntry) (all [.rule .expression, sign ":", sign "*", .rule .bitOr]),
      .hint (.always .missingEntry) (all [.rule .expression, sign ":",
        .ahead (choice [sign "\x7d", comma])])]
  | .pairHint =>
    any [.hint (.always .missingColon) (all [.rule .expression, .notAhead (sign ":")]),
      .hint (.always .starredEntry) (all [.rule .expression, sign ":", sign "*", .rule .bitOr]),
      .hint (.always .missingEntry) (all [.rule .expression, sign ":",
        .ahead (choice [sign "\x7d", comma])])]
  | .argumentsHint =>
    let clause := all [.rule .expression, .rule .clauses]
    any [.hint (.always .unpackedBeforeStarred) (all [.rule .argumentList, comma, sign "*"]),
      .hint (.always .bareClause) (all [clause, comma,
        maybe (choice [.rule .argumentList, clause])]),
      .hint (.always .assignsName) (all [.word .name, sign "=", clause]),
      .hint .bareClause (all [.rule .argumentList, .rule .clauses]),
      .hint (.always .bareClause) (all [.rule .argumentList, comma, clause]),
      .hint .plainAfterNamed (all [.rule .argumentList, comma, .rule .argumentList])]
  | .namedArgumentHint =>
    any [.hint .assignsWord (all [oneOf ["True", "False", "None"], sign "="]),
      .hint (.always .assignsName) (all [.word .name, sign "=", .rule .expression,
        .rule .clauses]),
      .hint (.always .assignsArgument) (all [.notAhead (part [.word .name, sign "="]),
        .rule .expression, sign "="])]
  | .targetHint =>
    .hint .assignsTarget (all [maybe (sign "async"), sign "for", .rule .starExpressions])
  | .parametersHint =>
    let names := listed (.rule .parameterName)
    let slashed := choice [.rule .slashedPlain, .rule .slashedDefaulted]
    let others := loop (.rule .anyParameter)
    any [.hint (.always .plainAfterDefault) (all [loop (.rule .plainParameter),
        .rule .defaultedStart, .rule .plainParameter]),
      .hint (.always .groupedParameters) (all [loop (.rule .plainParameter), sign "(", names,
        maybe comma, sign ")"]),
      .hint (.always .nothingBeforeSlash) (all [sign "/", comma]),
      .hint (.always .secondSlash) (all [slashed, others, sign "/"]),
      .hint (.always .slashAfterStar) (all [maybe slashed, others, sign "*",
        choice [comma, .rule .plainParameter], others, sign "/"]),
      .hint (.always .noCommaAfterSlash) (all [some (.rule .anyParameter), sign "/", sign "*"])]
  | .defaultedStart => any [.rule .slashedDefaulted, some (.rule .defaultedParameter)]
  | .restHint =>
    let single := choice [.rule .plainParameter, comma]
    any [.hint (.always .nothingAfterStar) (all [sign "*",
        choice [sign ":", all [comma, choice [sign ":", sign "**"]]]]),
      .hint (.always .starredDefault) (all [sign "*", .rule .parameterName, sign "="]),
      .hint (.always .secondStar) (all [sign "*", single, loop (.rule .anyParameter), sign "*",
        single])]
  | .tableParameterHint =>
    any [.hint (.always .doublyStarredDefault) (all [sign "**", .rule .parameterName, sign "="]),
      .hint (.always .afterDoublyStarred) (all [sign "**", .rule .parameterName, comma,
        .rule .parameterName]),
      .hint (.always .afterDoublyStarred) (all [sign "**", .rule .parameterName, comma,
        oneOf ["*", "**", "/"]])]
  | .defaultHint =>
    .hint (.always .missingDefault) (all [sign "=", .ahead (choice [sign ")", comma])])

/-- Whether a rule is tried only when a text is known to be no expression. The hints about the
entries of tables are tried at once. -/
def Rule.isHint : Rule → Bool
  | .expressionHint | .legacyHint | .namedHint | .groupHint | .clauseHint | .tableClauseHint
  | .argumentsHint | .namedArgumentHint | .targetHint | .parametersHint | .restHint
  | .tableParameterHint | .defaultHint => true
  | _ => false

/-- Whether what a rule matches is remembered for every place, also from where no hints are
tried to where they are. -/
def Rule.isRemembered : Rule → Bool
  | .expression | .starExpression | .disjunction | .conjunction | .inversion | .bitOr | .bitXor
  | .bitAnd | .shift | .sum | .term | .factor | .awaited | .primary | .texts | .arguments
  | .target | .plainTarget | .targetPrimary | .namedHint => true
  | _ => false

/-- How many steps deeper a rule goes: none for the alternatives of another rule, two for rules
that group their first matches first, and one for the others. -/
def Rule.depth : Rule → Nat
  | .expressionTuple | .conditional | .starTuple | .starredItem | .negation | .signed | .inverted
  | .awaiting | .attributeSuffix | .callSuffix | .unpackedEntry | .namedArgument
  | .unpackedArgument => 0
  | .bitOr | .bitXor | .bitAnd | .shift | .sum | .term | .primary | .targetPrimary
  | .membership | .comparing => 2
  | _ => 1

/-- One node as it is, or several that make one of a kind. -/
def single (kind : String) : List Node → List Node
  | [x] => [x]
  | xs => [.other kind xs]

/-- Nodes that are grouped two by two, the first ones first. -/
def grouped (join : Node → Node → Node) : List Node → List Node
  | [] => []
  | x :: xs => [xs.foldl join x]

/-- An expression with a suffix. -/
def suffixed (x : Node) : Node → Node
  | .other "attribute" _ => .other "attribute" [x]
  | suffix => .other "function call" [x, suffix]

/-- The nodes that a match of a rule stands for, from those of its parts and the expressions in
fields of texts. -/
def Rule.build (fields : Quotation → Except Failure (List Node)) (r : Rule) (xs : List Node) :
    Except Failure (List Node) :=
  match r with
  | .expressionTuple | .starTuple | .tuple => .ok [.tuple xs]
  | .conditional => .ok [.other "conditional expression" xs]
  | .binding => .ok [.other "named expression" xs]
  | .yielding => .ok [.other "yield expression" xs]
  | .lambda => .ok [.other "lambda" xs]
  | .awaiting => .ok [.other "await expression" xs]
  | .disjunction | .conjunction | .power => .ok (single "expression" xs)
  | .bitOr | .bitXor | .bitAnd | .shift | .term =>
    .ok (grouped (fun x y => .other "expression" [x, y]) xs)
  | .sum => .ok (grouped .sum xs)
  | .negation | .inverted => .ok [.other "expression" xs]
  | .comparison =>
    .ok (match xs with
      | x :: .other k ys :: zs => [.comparison x (k = "in") (.other k ys :: zs)]
      | xs => xs)
  | .membership => .ok [.other "in" xs]
  | .comparing => .ok [.other "comparison" xs]
  | .signed => .ok (xs.map .signed)
  | .primary =>
    .ok (match xs with
      | [.name "set", .call []] => [.emptySet]
      | xs => grouped suffixed xs)
  | .attributeSuffix => .ok [.other "attribute" []]
  | .callSuffix => .ok [.call xs]
  | .texts => (joinTexts fields xs).map ([·])
  | .generator => .ok [.other "generator expression" xs]
  | .table => .ok [.table xs]
  | .unpackedEntry | .unpackedArgument => .ok (xs.map .unpacked)
  | .pair =>
    .ok (match xs with
      | [k, v] => [.pair k v]
      | xs => xs)
  | .set => .ok [.set xs]
  | .tableClause => .ok [.other "dict comprehension" xs]
  | .setClause => .ok [.other "set comprehension" xs]
  | .clause => .ok [.other "clause" xs]
  | .argumentList => .ok [.arguments xs]
  | .starredItem | .starredArgument => .ok (xs.map .starred)
  | .namedArgument => .ok [.namedArgument xs]
  | _ => .ok xs

/-- Whether a node is an argument without a name. -/
def Node.isPlainArgument : Node → Bool
  | .namedArgument _ | .unpacked _ => false
  | _ => true

/-- Whether a node is taken over from a table. -/
def Node.isUnpacked : Node → Bool
  | .unpacked _ => true
  | _ => false

/-- The names that once were commands. -/
def legacyNames : List String := ["print", "exec"]

/-- The fault that a match of a hint shows, given its nodes and the level at its end. -/
def Hint.fault? (h : Hint) (xs : List Node) (level : Nat) : Option Fault :=
  match h, xs with
  | .always f, _ => some f
  | .forgottenComma, .name n :: _ =>
    if legacyNames.contains n || level = 0 then none else some .forgottenComma
  | .forgottenComma, _ => if level = 0 then none else some .forgottenComma
  | .missingCall, .name n :: _ =>
    if legacyNames.contains n then some (.missingCall n) else none
  | .bindsOther, x :: _ => some (.bindsOther x.kind)
  | .assignsOther, x :: _ => some (.assignsOther x.kind)
  | .assignsTarget, x :: _ => x.badTarget?.map fun bad => .assignsTarget bad.kind
  | .assignsWord, x :: _ => some (.assignsTarget x.kind)
  | .bareClause, .arguments ys :: _ =>
    if (ys.filter Node.isPlainArgument).length ≤ 1 then none else some .bareClause
  | .plainAfterNamed, .arguments ys :: _ =>
    some (if ys.any Node.isUnpacked then .unpackedBeforePlain else .namedBeforePlain)
  | _, _ => none

end Provision.Literal
