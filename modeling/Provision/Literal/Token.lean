import Provision.Literal.Number
import Provision.Literal.Quotation
import Provision.Text.Letters

/-!
# Words of expressions

An expression is cut into names, numbers, quoted texts and symbols. Between parentheses line ends
count as blanks, elsewhere they are words of their own, and so are changes of the margin of a
line. Every word has a level: how many parentheses are open after it.

Where characters cannot be cut into words, the words end with a broken one. Where they run out or
cannot go on for another reason, the words end with a stop, and the fault only counts if that
word is looked at.

* `Literal.Word`, `Literal.Token`: a word, and a word with where it stands.
* `Literal.tokens`: some characters cut into words.
-/

namespace Provision.Literal

/-- A word of an expression. -/
inductive Word where
  | name (s : String)
  /-- A sign or a reserved word. -/
  | symbol (s : String)
  | number (n : Numeral)
  | text (q : Quotation)
  | lineEnd
  | indent
  | dedent
  | ending
  /-- No words follow. If parentheses are open, the last one and its line are given. -/
  | stop (f : Fault) (opened : Option (Char × Nat))
  | broken (f : Fault)
deriving DecidableEq, Repr

/-- A word, its level, its line, and whether the end of all characters was met when it was read:
what can only be told from what follows is looked ahead for. -/
structure Token where
  word : Word
  level : Nat
  line : Nat
  atEnd : Bool := false
deriving DecidableEq, Repr

/-! ## Names -/

/-- The words that are no names. -/
def reserved : List String :=
  ["False", "None", "True", "and", "as", "assert", "async", "await", "break", "class", "continue",
    "def", "del", "elif", "else", "except", "finally", "for", "from", "global", "if", "import",
    "in", "is", "lambda", "nonlocal", "not", "or", "pass", "raise", "return", "try", "while",
    "with", "yield"]

/-- The first character that cannot be part of a name. -/
def badInName? : List Char → Option Char
  | [] => none
  | c :: cs => if Text.startsName c then cs.find? fun c => !Text.goesOnName c else some c

/-- A name or a reserved word. -/
def nameWord (cs : List Char) : Except Fault Word :=
  match badInName? cs with
  | some c => .error (.badCharacter c)
  | none =>
    let s := String.ofList cs
    .ok (if reserved.contains s then .symbol s else .name s)

/-! ## Signs -/

/-- The signs of three characters. -/
def tripleSigns : List String := ["**=", "//=", "<<=", ">>=", "..."]

/-- The signs of two characters. -/
def doubleSigns : List String :=
  ["!=", "%=", "&=", "**", "*=", "+=", "-=", "->", "//", "/=", ":=", "<<", "<=", "<>", "==", ">=",
    ">>", "@=", "^=", "|="]

/-- The sign at the start of the characters, and what follows. -/
def readSign (c : Char) (cs : List Char) : String × List Char :=
  match (tripleSigns ++ doubleSigns).find? (·.toList.isPrefixOf (c :: cs)) with
  | some sign => (sign, cs.drop (sign.length - 1))
  | none => (String.singleton c, cs)

/-! ## Places -/

/-- The most parentheses that may be open. -/
def levelLimit : Nat := 200

/-- The width of the blanks at the start of a line. A tab goes to the next multiple of eight, or
counts as one. -/
structure Margin where
  wide : Nat := 0
  narrow : Nat := 0
deriving DecidableEq, Repr

/-- Where words are read: the line, whether it has just begun, the open parentheses with their
lines, the last one first, and the margins that are left of this place, the last one first. -/
structure Place where
  line : Nat := 1
  fresh : Bool := true
  opened : List (Char × Nat) := []
  margins : List Margin := []

/-- The level of a place. -/
def Place.level (p : Place) : Nat := p.opened.length

/-- A word at a place. -/
def Place.token (p : Place) (word : Word) : Token := { word, level := p.level, line := p.line }

/-- The word after which no others can be read. -/
def Place.stop (p : Place) (f : Fault) : Token := p.token (.stop f p.opened.head?)

/-- The word where the characters end, given the one for no open parentheses. -/
def Place.last (p : Place) (word : Word) : Token :=
  match p.opened with
  | [] => p.token word
  | (opening, _) :: _ => p.stop (.neverClosed opening)

/-- The place after a parenthesis. -/
def Place.after (p : Place) (c : Char) : Except Fault Place :=
  if c = '(' || c = '\x7b' then
    if levelLimit ≤ p.level then .error .tooDeep
    else .ok { p with opened := (c, p.line) :: p.opened }
  else if c = ')' || c = '\x7d' then
    match p.opened with
    | [] => .error (.unmatched c)
    | (opening, line) :: opened =>
      if (opening = '(') = (c = ')') then .ok { p with opened }
      else .error (.mismatched c opening (if line = p.line then none else some line))
  else .ok p

/-! ## Starts of lines -/

/-- The start of a line: its margin, the line where it ends and the characters behind it. -/
structure Start where
  margin : Margin
  line : Nat
  rest : List Char

/-- The start of a line, from the blanks that were read and the margin where a line was first
carried on; or the fault and its line. A page end starts the margin anew. -/
def readStart : Nat → Margin → Nat → List Char → Except (Option Fault × Nat) Start
  | line, m, kept, ' ' :: cs => readStart line ⟨m.wide + 1, m.narrow + 1⟩ kept cs
  | line, m, kept, '\t' :: cs => readStart line ⟨(m.wide / 8 + 1) * 8, m.narrow + 1⟩ kept cs
  | line, _, kept, '\x0c' :: cs => readStart line {} kept cs
  | line, _, _, ['\\', '\n'] => .error (none, line + 1)
  | line, m, kept, '\\' :: '\n' :: cs =>
    readStart (line + 1) m (if kept = 0 then m.wide else kept) cs
  | line, _, _, '\\' :: _ => .error (some .afterContinuation, line)
  | line, m, kept, cs => .ok ⟨if kept = 0 then m else ⟨kept, kept⟩, line, cs⟩

/-- The margins after a line with a margin, and the words for the change. -/
def nextMargins (m : Margin) : List Margin → Except Fault (List Margin × List Word)
  | [] =>
    if m.wide = 0 then if m.narrow = 0 then .ok ([], []) else .error .mixedIndent
    else if m.narrow = 0 then .error .mixedIndent
    else .ok ([m], [.indent])
  | top :: below =>
    if m.wide = top.wide then
      if m.narrow = top.narrow then .ok (top :: below, []) else .error .mixedIndent
    else if top.wide < m.wide then
      if m.narrow ≤ top.narrow then .error .mixedIndent else .ok (m :: top :: below, [.indent])
    else
      let left := below.dropWhile (m.wide < ·.wide)
      let reached := (left.head?).getD {}
      if m.wide ≠ reached.wide then .error .unevenIndent
      else if m.narrow ≠ reached.narrow then .error .mixedIndent
      else .ok (left, List.replicate (below.length + 1 - left.length) .dedent)

/-! ## All words -/

/-- Whether a character is a blank within a line. -/
def isGap (c : Char) : Bool := c = ' ' || c = '\t' || c = '\x0c'

/-- Whether the end of all characters was met when a word before the given ones was read. A quoted
text and a sign of three characters are known to end; a point may be the first of three, and a
number may be followed by a reserved word. -/
def meetsEnd (word : Word) (rest : List Char) : Bool :=
  match word with
  | .text _ => false
  | .symbol s => !tripleSigns.contains s && (rest.isEmpty || (s = "." && rest = ['.']))
  | .number _ => rest.isEmpty || wholeFollowers.contains (String.ofList rest)
  | _ => rest.isEmpty

/-- A word, the characters behind it, and the place there. -/
def readWord (p : Place) (c : Char) (cs : List Char) :
    Except Fault (Word × List Char × Place) := do
  let isQuote (c : Char) : Bool := c = '\x22' || c = '\x27'
  if c.isDigit || (c = '.' && (cs.head?.map Char.isDigit).getD false) then
    let (n, rest) ← if c = '.' then readFraction cs else readNumber (c :: cs)
    return (.number n, rest, p)
  if isQuote c then
    let (q, rest, line) ← readQuotation [] c p.line cs
    return (.text q, rest, { p with line })
  if maybeInName c then
    let name := (c :: cs).takeWhile maybeInName
    let rest := (c :: cs).dropWhile maybeInName
    match rest with
    | quote :: rest =>
      if isQuote quote && textMarks.contains (String.ofList (name.map Char.toLower)) then
        let (q, rest, line) ← readQuotation name quote p.line rest
        return (.text q, rest, { p with line })
    | [] => pure ()
    return (← nameWord name, rest, p)
  if !Text.isPrintable c then throw (.badCharacter c)
  let p ← p.after c
  let (sign, rest) := readSign c cs
  return (.symbol sign, rest, p)

/-- The words of characters, in at most as many steps as given. A line with blanks and a comment
alone has no words. -/
def tokensFrom : Nat → Place → List Char → List Token
  | 0, _, _ => []
  | fuel + 1, p, cs =>
    if p.fresh then
      match readStart p.line {} 0 cs with
      | .error (none, line) => [{ p with line }.last (.stop .earlyEnd none)]
      | .error (some f, line) => [{ p with line }.stop f]
      | .ok start =>
        let p := { p with line := start.line, fresh := false }
        let head := start.rest.head?
        if head = some '#' ∨ head = some '\n' then
          match start.rest.dropWhile (· ≠ '\n') with
          | [] => [p.last .ending]
          | _ :: cs => tokensFrom fuel { p with line := p.line + 1, fresh := true } cs
        else if 0 < p.level then tokensFrom fuel p start.rest
        else
          match nextMargins start.margin p.margins with
          | .error f => [p.stop f]
          | .ok (margins, words) =>
            words.map p.token ++ tokensFrom fuel { p with margins } start.rest
    else
      match cs with
      | [] => [p.last .ending]
      | '\n' :: cs =>
        let next := tokensFrom fuel { p with line := p.line + 1, fresh := true } cs
        if 0 < p.level then next else p.token .lineEnd :: next
      | '#' :: cs => tokensFrom fuel p (cs.dropWhile (· ≠ '\n'))
      | ['\\', '\n'] => [{ p with line := p.line + 1 }.last (.stop .earlyEnd none)]
      | '\\' :: '\n' :: cs => tokensFrom fuel { p with line := p.line + 1 } cs
      | '\\' :: _ => [p.stop .afterContinuation]
      | c :: cs =>
        if isGap c then tokensFrom fuel p cs
        else
          match readWord p c cs with
          | .error f => [p.token (.broken f)]
          | .ok (word, rest, q) =>
            { word, level := q.level, line := p.line, atEnd := meetsEnd word rest } ::
              tokensFrom fuel q rest

/-- Some characters cut into words, the first of which stands in a line with the given number. -/
def tokens (line : Nat) (cs : List Char) : List Token :=
  tokensFrom (2 * cs.length + 2) { line } cs

end Provision.Literal
