import Provision.Table
import Provision.Text.Blank
import Provision.Text.Lines

/-!
# Files of variables

A file of variables has lines `KEY=value`, possibly after `export`. Blanks around the equals sign
do not count. A value in quotes may hold anything, also line ends; other values end before a
comment or at the end of the line. A line that fits none of this is skipped. A key without an
equals sign has no value. A byte order mark at the start of the file is not part of it.

In a value, `$` and a name in braces stand for the variable of that name: one that the file set
before, or else one of the environment, or else the default after `:-`, or else nothing.

* `VariableFile.bindings`: the keys and values as they are written.
* `VariableFile.variablesOf`: the values with variables put in.
-/

namespace Provision.Settings.VariableFile

open Text

/-- A key, and its value if it has one. -/
structure Binding where
  key : String
  value : Option String
deriving DecidableEq, Repr

/-! ## Quoted texts -/

/-- The inside of a quoted text, up to the first quote, and what follows it. A backslash goes
together with the character behind it, so that this one ends nothing. -/
def quotedText (quote : Char) : List Char → Option (List Char × List Char)
  | [] => none
  | '\\' :: c :: cs =>
    (quotedText quote cs).map fun (inside, rest) => ('\\' :: c :: inside, rest)
  | c :: cs =>
    if c = quote then some ([], cs)
    else (quotedText quote cs).map fun (inside, rest) => (c :: inside, rest)

/-- The character that a backslash and a character stand for between double quotes. -/
def escape? : Char → Option Char
  | '\\' => some '\\'
  | '\x27' => some '\x27'
  | '\x22' => some '\x22'
  | 'a' => some '\x07'
  | 'b' => some '\x08'
  | 'f' => some '\x0c'
  | 'n' => some '\n'
  | 'r' => some '\r'
  | 't' => some '\t'
  | 'v' => some '\x0b'
  | _ => none

/-- The character that a backslash and a character stand for between single quotes. -/
def plainEscape? : Char → Option Char
  | '\\' => some '\\'
  | '\x27' => some '\x27'
  | _ => none

/-- The characters with escapes read; a backslash before anything else stands for itself. -/
def unescape (escape : Char → Option Char) : List Char → List Char
  | '\\' :: c :: cs =>
    match escape c with
    | some d => d :: unescape escape cs
    | none => '\\' :: unescape escape (c :: cs)
  | c :: cs => c :: unescape escape cs
  | [] => []

/-! ## Values without quotes -/

/-- The characters before a comment, which starts at a number sign with blanks in front. -/
def beforeComment : List Char → List Char
  | [] => []
  | c :: cs =>
    if isBlank c && (cs.dropWhile isBlank).head? = some '#' then []
    else c :: beforeComment cs

/-! ## Bindings -/

/-- Whether characters belong to the current line. -/
def inLine (c : Char) : Bool := c ≠ '\n' && c ≠ '\r'

/-- A value, possibly after blanks, and what follows it, or nothing when a quote is not closed.
The blanks may already introduce a comment. -/
def readValue (cs : List Char) : Option (List Char × List Char) :=
  match cs.dropWhile isInlineBlank with
  | '\x27' :: rest =>
    (quotedText '\x27' rest).map fun (v, rest) => (unescape plainEscape? v, rest)
  | '\x22' :: rest => (quotedText '\x22' rest).map fun (v, rest) => (unescape escape? v, rest)
  | _ => some (trim (beforeComment (cs.takeWhile inLine)), cs.dropWhile inLine)

/-- The characters after `export` and blanks, if these are in front. -/
def afterExport (cs : List Char) : List Char :=
  if "export".toList.isPrefixOf cs then
    let rest := cs.drop 6
    if (rest.head?.map isInlineBlank).getD false then rest.dropWhile isInlineBlank else cs
  else cs

/-- Whether a character may stand in a key without quotes. -/
def isKeyChar (c : Char) : Bool := c ≠ '=' && c ≠ '#' && !isBlank c

/-- A key and what follows it. A comment stands for no key; a missing key is nothing at all. -/
def readKey : List Char → Option (Option String × List Char)
  | '#' :: cs => some (none, '#' :: cs)
  | '\x27' :: cs =>
    let key := cs.takeWhile (· ≠ '\x27')
    match cs.dropWhile (· ≠ '\x27') with
    | '\x27' :: rest => if key.isEmpty then none else some (some (String.ofList key), rest)
    | _ => none
  | cs =>
    let key := cs.takeWhile isKeyChar
    if key.isEmpty then none else some (some (String.ofList key), cs.dropWhile isKeyChar)

/-- The rest after a comment and the end of the line, if there is nothing else. -/
def endLine (cs : List Char) : Option (List Char) :=
  let cs := match cs.dropWhile isInlineBlank with
    | '#' :: rest => rest.dropWhile inLine
    | rest => rest
  match cs with
  | [] => some []
  | '\n' :: rest => some rest
  | '\r' :: rest => some rest
  | _ => none

/-- The rest after the current line. -/
def skipLine (cs : List Char) : List Char := (cs.dropWhile inLine).drop 1

/-- The value after a key, if an equals sign follows, and what comes after it. -/
def readAssigned (cs : List Char) : Option (Option String × List Char) :=
  match cs.dropWhile isInlineBlank with
  | '=' :: rest =>
    (readValue rest).map fun (v, rest) => (some (String.ofList v), rest)
  | rest => some (none, rest)

/-- Where reading goes on after a line that does not fit: at the end of the line in which it
stopped making sense. -/
def recover (cs : List Char) : List Char :=
  let start := afterExport cs
  match readKey start with
  | none => skipLine start
  | some (_, rest) =>
    match readAssigned rest with
    | none => skipLine rest
    | some (_, rest) => skipLine rest

/-- One binding at the start of the characters, and the rest. -/
def readBinding (cs : List Char) : Option Binding × List Char :=
  let whole : Option (Option Binding × List Char) := do
    let (key, rest) ← readKey (afterExport cs)
    let (value, rest) ← readAssigned rest
    let rest ← endLine rest
    pure (key.map fun k => ⟨k, value⟩, rest)
  whole.getD (none, recover cs)

/-- The bindings of characters, with at most as many steps as given. -/
def readBindings : Nat → List Char → List Binding
  | 0, _ => []
  | fuel + 1, cs =>
    match cs.dropWhile isBlank with
    | [] => []
    | start =>
      match readBinding start with
      | (some b, rest) => b :: readBindings fuel rest
      | (none, rest) => readBindings fuel rest

/-- The characters without a byte order mark in front. -/
def withoutMark : List Char → List Char
  | '\uFEFF' :: cs => cs
  | cs => cs

/-- The bindings of a text; every step takes at least one character. -/
def bindings (s : String) : List Binding :=
  let cs := unifyLineEnds (withoutMark s.toList)
  readBindings (cs.length + 1) cs

/-! ## Variables in values -/

/-- The name and the default of a variable in braces, and what follows it. -/
def readVariable (cs : List Char) : Option ((String × String) × List Char) :=
  let isName (c : Char) : Bool := c ≠ '\x7d' && c ≠ ':'
  let name := String.ofList (cs.takeWhile isName)
  match cs.dropWhile isName with
  | '\x7d' :: rest => some ((name, ""), rest)
  | ':' :: '-' :: rest =>
    let default := String.ofList (rest.takeWhile (· ≠ '\x7d'))
    match rest.dropWhile (· ≠ '\x7d') with
    | _ :: rest => some ((name, default), rest)
    | [] => none
  | _ => none

/-- A text with variables put in, with at most as many steps as given. -/
def expandChars (value? : String → Option String) : Nat → List Char → List Char
  | 0, cs => cs
  | _ + 1, [] => []
  | fuel + 1, '$' :: '\x7b' :: cs =>
    match readVariable cs with
    | some ((name, default), rest) =>
      ((value? name).getD default).toList ++ expandChars value? fuel rest
    | none => '$' :: '\x7b' :: expandChars value? fuel cs
  | fuel + 1, c :: cs => c :: expandChars value? fuel cs

/-- A text with variables put in. -/
def expand (value? : String → Option String) (s : String) : String :=
  String.ofList (expandChars value? s.toList.length s.toList)

/-- The variables of a file, given those of the environment. A key without a value hides the
variable of the environment. -/
def variablesOf (environment : Table String) (s : String) : Table (Option String) :=
  (bindings s).foldl (fun vars b =>
    let value? (name : String) : Option String :=
      match vars.get? name with
      | some v => some (v.getD "")
      | none => environment.get? name
    vars.set b.key (b.value.map (expand value?))) []

end Provision.Settings.VariableFile
