import Provision.Literal.Escape
import Provision.Literal.Failure
import Provision.Literal.Quotation

/-!
# Fields of formatted texts

A formatted text has fields in braces. A field is an expression, a conversion and a format, and
the format may have fields itself. Braces that belong to the text are doubled, though not in a
format.

* `Literal.readPlain`: the text in front of a field.
* `Literal.readInner`: the expression of a field.
* `Literal.Quotation.fields`: the expressions in the fields of a text.
-/

namespace Provision.Literal

/-! ## Text between fields -/

/-- How the text between fields ends. -/
inductive PlainEnd where
  /-- With all characters. -/
  | all
  /-- With a doubled brace, of which one belongs to the text. -/
  | doubled
  /-- Behind the brace that opens a field. -/
  | field
  /-- In front of a brace that closes a field. -/
  | closing
deriving DecidableEq, Repr

/-- The text between fields, how it ends and what follows. -/
structure Plain where
  text : List Char
  ending : PlainEnd
  rest : List Char

/-- A text with more characters in front. -/
def Plain.behind (cs : List Char) (p : Plain) : Plain := { p with text := cs ++ p.text }

/-- The text up to a brace, given whether it is a format and whether the name of a character is
being read, in which braces do not count. Where escapes count, a backslash goes with the character
behind it, but does not keep a brace from counting. -/
def readPlain (raw inFormat : Bool) : Bool → List Char → Plain
  | _, [] => ⟨[], .all, []⟩
  | true, c :: cs => (readPlain raw inFormat (c ≠ '\x7d') cs).behind [c]
  | false, c :: cs =>
    if c = '\\' && !raw then
      match cs with
      | [] => ⟨['\\'], .all, []⟩
      | ['N'] => ⟨['\\', 'N'], .all, []⟩
      | 'N' :: d :: cs => (readPlain raw inFormat (d = '\x7b') cs).behind ['\\', 'N', d]
      | d :: cs =>
        if d = '\x7b' || d = '\x7d' then
          if !inFormat && cs.head? = some d then ⟨['\\', d], .doubled, cs.drop 1⟩
          else if d = '\x7b' then ⟨['\\'], .field, cs⟩
          else ⟨['\\'], .closing, d :: cs⟩
        else (readPlain raw inFormat false cs).behind ['\\', d]
    else if c = '\x7b' || c = '\x7d' then
      if !inFormat && cs.head? = some c then ⟨[c], .doubled, cs.drop 1⟩
      else if c = '\x7b' then ⟨[], .field, cs⟩
      else ⟨[], .closing, c :: cs⟩
    else (readPlain raw inFormat false cs).behind [c]

/-! ## Expressions of fields -/

/-- The most parentheses that may be open in a field. -/
def fieldLevelLimit : Nat := 200

/-- Where the expression of a field is read: how many characters are known to belong to it, the
quote of a text that is being read and whether it is long, and the open parentheses, the last one
first. -/
structure InnerPlace where
  known : Nat := 0
  quote : Option (Char × Bool) := none
  opened : List Char := []

/-- The fault of an expression that ends with all characters. -/
def InnerPlace.endFault (p : InnerPlace) : FieldFault :=
  if p.quote.isSome then .unendedText
  else match p.opened with
    | opening :: _ => .unmatched opening
    | [] => .missingClosing

/-- The place behind a character that is followed by others; nothing if the expression ends in
front of it, outside of quotes and parentheses. -/
def InnerPlace.next? (p : InnerPlace) (c : Char) (cs : List Char) :
    Except FieldFault (Option InnerPlace) :=
  let tripled := [c, c].isPrefixOf cs
  if 0 < p.known then .ok (some { p with known := p.known - 1 })
  else if c = '\\' then .error .backslash
  else match p.quote with
    | some (quote, long) =>
      .ok (some (
        if c ≠ quote then p
        else if !long then { p with quote := none }
        else if tripled then { p with quote := none, known := 2 }
        else p))
    | none =>
      if c = '\x22' || c = '\x27' then
        .ok (some { p with quote := some (c, tripled), known := if tripled then 2 else 0 })
      else if c = '(' || c = '\x7b' then
        if fieldLevelLimit ≤ p.opened.length then .error .tooManyOpen
        else .ok (some { p with opened := c :: p.opened })
      else if c = '#' then .error .comment
      else if p.opened.isEmpty && ['!', ':', '\x7d', '=', '>', '<'].contains c then
        if cs.head? = some '=' && ['!', '=', '<', '>'].contains c then
          .ok (some { p with known := 1 })
        else if c = '<' || c = '>' then .ok (some p)
        else .ok none
      else if c = ')' || c = '\x7d' then
        match p.opened with
        | [] => .error (.unmatched c)
        | opening :: opened =>
          if (opening = '(') = (c = ')') then .ok (some { p with opened })
          else .error (.mismatched c opening)
      else .ok (some p)

/-- The expression of a field and what follows, from the sign behind it on. -/
def readInner (p : InnerPlace) : List Char → Except FieldFault (List Char × List Char)
  | [] => .error p.endFault
  | c :: cs =>
    match p.next? c cs with
    | .error f => .error f
    | .ok none => .ok ([], c :: cs)
    | .ok (some next) => (readInner next cs).map fun (inner, rest) => (c :: inner, rest)

/-- The fault of an expression without words, given the sign behind it. -/
def emptyFault (sign : Option Char) : FieldFault :=
  match sign with
  | some c => if ['!', ':', '='].contains c then .emptyBefore c else .empty
  | none => .empty

/-- Whether a character is a blank of an expression. -/
def isFieldBlank (c : Char) : Bool := c = ' ' || c = '\t' || c = '\n' || c = '\x0c'

/-! ## Fields -/

/-- What follows a field after its expression: a sign that asks for the expression itself, a
conversion and a format, each if it is there, and the brace that closes it. The expressions are
those in the format. -/
def readSuffix {α : Type} (readFormat : List Char → Except Failure (List α × List Char))
    (cs : List Char) : Except Failure (List α × List Char) := do
  let fail {β : Type} (f : FieldFault) : Except Failure β := .error (.fault (.badField f))
  let cs := match cs with
    | '=' :: cs => cs.dropWhile fun c => isFieldBlank c || c = '\x0b'
    | cs => cs
  let cs ← match cs with
    | ['!'] => fail .missingClosing
    | '!' :: c :: cs => if ['s', 'r', 'a'].contains c then pure cs else fail .badConversion
    | cs => pure cs
  let (inner, cs) ← match cs with
    | [':'] => fail .missingClosing
    | ':' :: cs => readFormat cs
    | cs => pure ([], cs)
  match cs with
  | '\x7d' :: cs => pure (inner, cs)
  | _ => fail .missingClosing

/-- The expressions in a text with fields and what is left after the last of them, given how to
read a field; in at most as many steps as given. A format ends where the brace of its field
stands. -/
def readFields {α : Type} (raw inFormat : Bool)
    (readField : List Char → Except Failure (List α × List Char)) :
    Nat → List Char → Except Failure (List α × List Char)
  | 0, cs => .ok ([], cs)
  | fuel + 1, cs => do
    let plain := readPlain raw inFormat false cs
    if plain.ending = .closing && !inFormat then throw (.fault (.badField .singleClosing))
    if let some f := if raw then none else escapeFault? plain.text then throw (.fault f)
    match plain.ending with
    | .all => pure ([], [])
    | .closing => pure ([], plain.rest)
    | .doubled => readFields raw inFormat readField fuel plain.rest
    | .field =>
      let (first, rest) ← readField plain.rest
      let (more, rest) ← readFields raw inFormat readField fuel rest
      pure (first ++ more, rest)

/-- The expressions in a field and what follows it. As many formats as given may have fields
inside each other. The reader of expressions gets the characters from the expression on. -/
def readField {α : Type} (raw : Bool)
    (readExpression : List Char → List Char → Except Failure α) :
    Nat → List Char → Except Failure (List α × List Char)
  | 0, _ => .error (.fault (.badField .tooDeep))
  | depth + 1, cs =>
    match readInner {} cs with
    | .error f => .error (.fault (.badField f))
    | .ok (inner, rest) => do
      if inner.all isFieldBlank then throw (.fault (.badField (emptyFault rest.head?)))
      let x ← readExpression inner cs
      let (more, rest) ← readSuffix (fun format =>
        readFields raw true (readField raw readExpression depth) (format.length + 1) format) rest
      pure (x :: more, rest)

/-- The expressions in the fields of a text, given how to read one in a line. -/
def Quotation.fields {α : Type} (readExpression : Nat → List Char → Except Failure α)
    (q : Quotation) : Except Failure (List α) :=
  let lines := q.body.count '\n'
  let readAt (inner rest : List Char) := readExpression (q.line + (lines - rest.count '\n')) inner
  (readFields q.raw false (readField q.raw readAt 2) (q.body.length + 1) q.body).map Prod.fst

end Provision.Literal
