import Provision.Display.Emoji
import Provision.Display.Handler
import Provision.Display.Spanned
import Provision.Display.StyleName
import Provision.Display.Styled
import Provision.Text.Names

/-!
# Markup

A printed text may hold tags between brackets. A tag starts with a lower-case letter or one of
`#`, `/` and `@`, and goes on to the next closing bracket, with no opening bracket on the way.
Tags set styles and are not shown: a tag opens a style, a tag with a slash closes the last one
of that name, and a slash alone closes the last one of all. What follows an equals sign in a tag
are its parameters: those of a handler are read when it is closed, those of a style belong to its
name when it is shown. A backslash in front of a tag makes it text; two of them stand for one.

Anything else is text. In it a backslash before an opening bracket is dropped, and the names of
pictographs between colons are replaced.

* `Markup.tokens`: a text cut into tags and stretches of text.
* `Markup.render`: what a text looks like, with the stretches of its styles.
-/

namespace Provision.Markup

/-- A stretch of text, or a tag and where it stands. -/
inductive Token where
  | text (cs : List Char)
  | tag (position : Nat) (inside : List Char)
deriving DecidableEq, Repr

/-- Whether a character may start a tag. -/
def startsTag (c : Char) : Bool :=
  ('a' ≤ c && c ≤ 'z') || c = '#' || c = '/' || c = '@'

/-- The characters up to a closing bracket, and those after it, if no opening one is between. -/
def untilBracket : List Char → Option (List Char × List Char)
  | [] => none
  | c :: cs =>
    if c = ']' then some ([], cs)
    else if c = '[' then none
    else (untilBracket cs).map fun (inside, rest) => (c :: inside, rest)

/-- The inside of a tag at the start of the characters, and what follows it. -/
def readTag : List Char → Option (List Char × List Char)
  | '[' :: c :: cs =>
    if startsTag c then (untilBracket cs).map fun (inside, rest) => (c :: inside, rest) else none
  | _ => none

/-- A stretch of text, unless it is empty. -/
def textToken (cs : List Char) : List Token := if cs.isEmpty then [] else [.text cs]

/-- The tokens of a tag with a number of backslashes in front: every two of them are one, and a
single one that is left makes the tag text. -/
def tagTokens (position slashes : Nat) (inside : List Char) : List Token :=
  textToken (List.replicate (slashes / 2) '\\') ++
    if slashes % 2 = 1 then [.text ('[' :: inside ++ [']'])]
    else [.tag (position + slashes) inside]

/-- The tokens of characters from a position on, given the text before them and at most as many
steps as given. -/
def tokensFrom : Nat → Nat → List Char → List Char → List Token
  | 0, _, before, cs => textToken (before ++ cs)
  | _ + 1, _, before, [] => textToken before
  | fuel + 1, position, before, c :: cs =>
    let slashes := (c :: cs).takeWhile (· = '\\')
    match readTag ((c :: cs).drop slashes.length) with
    | some (inside, rest) =>
      textToken before ++ tagTokens position slashes.length inside ++
        tokensFrom fuel (position + slashes.length + inside.length + 2) [] rest
    | none =>
      let step := max 1 slashes.length
      tokensFrom fuel (position + step) (before ++ (c :: cs).take step) ((c :: cs).drop step)

/-- A text cut into tags and stretches of text; the place of a tag is counted in points. -/
def tokens (s : String) : List Token :=
  let cs := s.toList
  (tokensFrom (cs.length + 1) 0 [] cs).map fun
    | .tag position inside => .tag (Text.count (cs.take position)) inside
    | t => t

/-- Why markup cannot be shown. -/
inductive Error where
  | unmatched (tag : String) (position : Nat)
  | nothingToClose (position : Nat)
  | handler (f : Display.HandlerFault)
  | colour (f : Text.IntegerFault)
deriving DecidableEq, Repr

/-- The wording of an error. -/
def Error.message : Error → String
  | .unmatched tag position =>
    "closing tag '[" ++ tag ++ "]' at position " ++ toString position ++
      " doesn't match any open tag"
  | .nothingToClose position =>
    "closing tag '[/]' at position " ++ toString position ++ " has nothing to close"
  | .handler f => f.message
  | .colour f => f.message

/-- The name of a tag, and its parameters behind an equals sign. -/
structure Tag where
  name : String
  parameters : Option String := none
deriving DecidableEq, Repr

/-- The tag of what stands between brackets. -/
def Tag.ofInside (inside : List Char) : Tag :=
  match Text.cutChars '=' inside with
  | some (name, parameters) => ⟨String.ofList name, some (String.ofList parameters)⟩
  | none => ⟨String.ofList inside, none⟩

/-- Whether a tag binds a handler. -/
def Tag.isHandler (t : Tag) : Bool := t.name.toList.head? = some '@'

/-- The name of the style that a tag sets. -/
def Tag.style (t : Tag) : String := t.name ++ (t.parameters.map (" " ++ ·)).getD ""

/-- The name that a tag with a slash closes, empty for the last one of all. -/
def Tag.closing? (t : Tag) : Option String :=
  match t.name.toList with
  | '/' :: name => some (String.ofList (Text.trim name))
  | _ => none

/-- A tag, and how much text is shown before it. -/
structure Opened where
  start : Nat
  tag : Tag
deriving DecidableEq, Repr

/-- What was shown so far: the text, the open tags, the last one first, and the stretches of the
closed ones, the last one first. -/
structure Screen where
  shown : List Text.Point := []
  opened : List Opened := []
  stretches : List Display.Stretch := []
deriving DecidableEq, Repr

/-- The normal form of the name of a style. -/
def normalName (name : String) : Except Error String :=
  (Display.normalStyle name).mapError .colour

/-- The stretch of an open tag, which goes on to the end of what is shown. -/
def Screen.stretch (s : Screen) (o : Opened) (style : String) : Display.Stretch :=
  ⟨o.start, s.shown.length, style⟩

/-- An open tag is closed. A handler has a stretch, too, but no style. -/
def Screen.close (s : Screen) (o : Opened) (opened : List Opened) : Except Error Screen :=
  if o.tag.isHandler then do
    let parameters := o.tag.parameters.getD ""
    if parameters ≠ "" then (Display.checkHandler parameters).mapError .handler
    pure { s with opened, stretches := s.stretch o "none" :: s.stretches }
  else .ok { s with opened, stretches := s.stretch o o.tag.style :: s.stretches }

/-- What is shown after a tag. -/
def Screen.afterTag (s : Screen) (position : Nat) (inside : List Char) : Except Error Screen := do
  let tag := Tag.ofInside inside
  match tag.closing? with
  | some "" =>
    match s.opened with
    | [] => throw (.nothingToClose position)
    | o :: opened => s.close o opened
  | some name =>
    let name ← normalName name
    match s.opened.find? (·.tag.name = name) with
    | none => throw (.unmatched (String.ofList inside) position)
    | some o => s.close o (s.opened.erase o)
  | none =>
    let name ← normalName tag.name
    pure { s with opened := ⟨s.shown.length, { tag with name }⟩ :: s.opened }

/-- The characters without the backslashes in front of opening brackets. -/
def unescapeBrackets : List Char → List Char
  | '\\' :: '[' :: cs => '[' :: unescapeBrackets cs
  | c :: cs => c :: unescapeBrackets cs
  | [] => []

/-- How a stretch of text is shown. -/
def showText (cs : List Char) : List Text.Point :=
  Text.points (Display.shown (Display.replaceEmoji (String.ofList (unescapeBrackets cs)))).toList

/-- What is shown after tokens. -/
def Screen.afterTokens : List Token → Screen → Except Error Screen
  | [], s => .ok s
  | .text cs :: ts, s => afterTokens ts { s with shown := s.shown ++ showText cs }
  | .tag position inside :: ts, s =>
    match s.afterTag position inside with
    | .error e => .error e
    | .ok s => afterTokens ts s

/-- The text with all stretches, in the order in which they start. Of those that start together the
one that is closed last comes first; tags that stay open are closed at the end, the last one
first. -/
def Screen.spanned (s : Screen) : Display.Spanned :=
  let all := s.opened.reverse.map (fun o => s.stretch o o.tag.style) ++ s.stretches
  ⟨s.shown, all.mergeSort fun a b => a.first ≤ b.first⟩

/-- The first fault of the colours in styles. -/
def colourFault? : List String → Option Text.IntegerFault
  | [] => none
  | style :: styles =>
    match Display.normalStyle style with
    | .error f => some f
    | .ok _ => colourFault? styles

/-- What a text looks like, with the stretches of its styles. -/
def render (s : String) : Except Error Display.Spanned :=
  (Screen.afterTokens (tokens s) {}).map Screen.spanned

end Provision.Markup
