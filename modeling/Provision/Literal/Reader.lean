import Provision.Literal.Field
import Provision.Literal.Grammar
import Provision.Literal.Token
import Provision.Text.Letters
import Provision.Text.Lines
import Std.Data.HashMap

/-!
# Reading literals

The words of a text are matched with the grammar of expressions. If they do not match, they are
matched once more with the hints, which may tell why. The expressions in fields of formatted texts
are read in the same way.

* `Literal.run`: a pattern matched with words.
* `Literal.readExpression`: the expression that a text spells.
* `Literal.read`: whether a text spells a literal.
-/

namespace Provision.Literal

/-- What comes of matching a pattern. -/
inductive Outcome where
  /-- The place after the match, and the nodes in it. -/
  | matched (place : Nat) (xs : List Node)
  | failed
  /-- No match, and none for the other alternatives of the rule. -/
  | refused
  | failure (x : Failure)

/-- What is known while matching: what rules matched at which places, whether hints are tried, and
the last place where a word was looked at. -/
structure Progress where
  known : Std.HashMap (Rule × Nat) Outcome := {}
  hints : Bool
  furthest : Nat := 0

/-- The nodes of a word that passes a test. -/
def Test.nodes? : Test → Word → Option (List Node)
  | .symbol s, .symbol t =>
    if s ≠ t then none
    else if s = "..." then some [.constant "ellipsis"]
    else if s = "True" ∨ s = "False" ∨ s = "None" then some [.constant s]
    else some []
  | .name, .name s => some [.name (Text.plainName s)]
  | .softName, .name s => if ["_", "case", "match"].contains s then some [] else none
  | .text, .text q => some [.text q]
  | .number, .number n => some [.number n.imaginary]
  | .lineEnd, .lineEnd => some []
  | .ending, .ending => some []
  | _, _ => none

/-- What comes of a test of the word at a place. -/
def Test.outcome (t : Test) (place : Nat) : Word → Outcome
  | .stop f _ => .failure (.stopped f)
  | .broken f => .failure (.broken f)
  | word =>
    match t, word with
    | .number, .number ⟨_, some digits⟩ =>
      if Text.digitLimit < digits then .failure (.fault (.tooManyDigits digits))
      else .matched (place + 1) [.number false]
    | t, word =>
      match t.nodes? word with
      | some xs => .matched (place + 1) xs
      | none => .failed

/-- Words to be matched, and the expressions in fields of the texts among them. -/
structure Source where
  words : Array Token
  fields : Quotation → Except Failure (List Node)

/-- What comes of a rule, from what comes of its pattern. -/
def Rule.outcome (source : Source) (r : Rule) : Outcome → Outcome
  | .matched place xs =>
    match r.build source.fields xs with
    | .ok ys => .matched place ys
    | .error x => .failure x
  | .refused => .failed
  | o => o

/-- How deep an expression may go. -/
def depthLimit : Nat := 6000

/-- A pattern matched with words at a depth and from a place on, with at most as many patterns
inside each other as given. -/
def run (source : Source) : Nat → Pattern → Nat → Nat → Progress → Outcome × Progress
  | 0, _, _, _, s => (.failed, s)
  | fuel + 1, pattern, depth, place, s =>
    match pattern with
    | .nothing => (.matched place [], s)
    | .word t =>
      match source.words[place]? with
      | none => (.failed, s)
      | some token => (t.outcome place token.word, { s with furthest := max s.furthest place })
    | .rule r =>
      if r.isHint && !s.hints then (.failed, s)
      else if 0 < r.depth ∧ depthLimit ≤ depth then (.failure .exhausted, s)
      else match (if r.isRemembered then s.known[(r, place)]? else none) with
        | some o => (o, s)
        | none =>
          if depthLimit < depth + r.depth then (.failure .exhausted, s)
          else
            let hints := s.hints && r ≠ .plainExpression
            let (o, t) := run source fuel r.pattern (depth + r.depth) place { s with hints }
            let o := r.outcome source o
            let found := if r.isRemembered then t.known.insert (r, place) o else t.known
            (o, { t with hints := s.hints, known := found })
    | .both a b =>
      match run source fuel a depth place s with
      | (.matched place xs, s) =>
        match run source fuel b depth place s with
        | (.matched place ys, s) => (.matched place (xs ++ ys), s)
        | r => r
      | r => r
    | .either a b =>
      match run source fuel a depth place s with
      | (.failed, s) => run source fuel b depth place s
      | r => r
    | .many a =>
      match run source fuel a depth place s with
      | (.matched after xs, s) =>
        match run source fuel (.many a) depth after s with
        | (.matched place ys, s) => (.matched place (xs ++ ys), s)
        | r => r
      | (.failed, s) => (.matched place [], s)
      | r => r
    | .ahead a =>
      match run source fuel a depth place s with
      | (.matched _ _, s) => (.matched place [], s)
      | r => r
    | .notAhead a =>
      match run source fuel a depth place s with
      | (.matched _ _, s) => (.failed, s)
      | (.failed, s) => (.matched place [], s)
      | r => r
    | .inner a =>
      if depthLimit ≤ depth then (.failure .exhausted, s)
      else run source fuel a (depth + 1) place s
    | .commit a =>
      match run source fuel a depth place s with
      | (.failed, s) => (.refused, s)
      | r => r
    | .hint h a =>
      match run source fuel a depth place s with
      | (.matched place xs, s) =>
        match h.fault? xs ((source.words[place - 1]?.map Token.level).getD 0) with
        | some f => (.failure (.fault f), s)
        | none => (.refused, s)
      | r => r

/-- The words matched with a rule from the first on. -/
def runRule (source : Source) (r : Rule) (hints : Bool) : Outcome × Progress :=
  run source (400 * (source.words.size + 1)) (.rule r) 0 0 { hints }

/-- The failure to report for a fault that was found when words up to a place were looked at. A
broken word further on comes first, and then a parenthesis from an earlier line that stays open.
Unless nothing else is known of the fault, it stands if the end of the text was met. -/
def reported (words : Array Token) (furthest : Nat) (f : Fault) : Failure :=
  match words.back?, words[furthest]? with
  | some last, some seen =>
    if seen.atEnd && f ≠ .unexpected then .fault f
    else match last.word with
      | .broken g => .broken g
      | .stop _ (some (opening, line)) =>
        if line < seen.line then .fault (.neverClosed opening) else .fault f
      | _ => .fault f
  | _, _ => .fault f

/-- The node that some words spell by a rule. -/
def readWords (source : Source) (r : Rule) : Except Failure Node :=
  let words := source.words
  let report (furthest : Nat) : Failure → Failure
    | .fault f => reported words furthest f
    | x => x
  match runRule source r false with
  | (.matched _ [x], _) => .ok x
  | (.failure x, s) => .error (report s.furthest x)
  | (_, s) =>
    match runRule source r true with
    | (.failure x, t) => .error (report (max s.furthest t.furthest) x)
    | (_, t) =>
      if (words[s.furthest]?.map Token.word) = some .indent then .error (.fault .unexpectedIndent)
      else .error (reported words (max s.furthest t.furthest) .unexpected)

/-- The node that some characters spell by a rule, from a line on. Fields of formatted texts may
have formatted texts in their expressions, at most as many inside each other as given. The
expression of a field is read as if it stood in parentheses. -/
def readNode : Nat → Rule → Nat → List Char → Except Failure Node
  | 0, _, _, _ => .error .exhausted
  | depth + 1, r, line, cs =>
    let readInField (line : Nat) (cs : List Char) : Except Failure Node :=
      (readNode depth .starExpressions line ('(' :: cs ++ [')', '\n'])).mapError Failure.inField
    readWords ⟨(tokens line cs).toArray, Quotation.fields readInField⟩ r

/-- The expression that a text spells. -/
def readExpression (s : String) : Except Failure Node :=
  let cs := Text.unifyLineEnds s.toList
  readNode (cs.length + 1) .whole 1 cs

/-- Why a text spells no literal. -/
inductive Unread where
  | fault (f : Fault)
  | refusal (r : Refusal)
deriving DecidableEq, Repr

/-- Why a text spells no literal whose expression cannot be read. -/
def Failure.unread : Failure → Unread
  | .fault f | .stopped f | .broken f => .fault f
  | .exhausted => .refusal .exhausted

/-- Why a text cannot spell an expression at all, if it cannot. -/
def refusal? (s : String) : Option Refusal :=
  match Text.unencodable? s with
  | some u => some (.unencodable u)
  | none => if s.toList.contains (Char.ofNat 0) then some .zeroByte else none

/-- How many nodes of an expression may be inside each other. -/
def nodeLimit : Nat := 2900

/-- Whether an expression is a literal that does not go too deep. -/
def accept (x : Node) : Except Refusal Unit :=
  if nodeLimit < x.depth then .error .tooDeep else (check x).map fun _ => ()

/-- Whether a text spells a literal. -/
def read (s : String) : Except Unread Unit :=
  match refusal? s with
  | some r => .error (.refusal r)
  | none =>
    match readExpression (Text.toPlain s) with
    | .error x => .error x.unread
    | .ok x => (accept x).mapError .refusal

end Provision.Literal
