import Provision.Json.Error
import Provision.Text.Point
import Provision.Value.Basic

/-!
# Reading JSON

The reader follows the text from left to right and stops at the first fault. Beyond the
standard it takes the words `NaN`, `Infinity` and `-Infinity`. A number without fraction and
exponent is an integer of any size up to `Text.digitLimit`; every other number is a double. A key
that is repeated keeps its first place and takes its last value. An escape may spell half of a
surrogate pair.

* `Json.readValue`: a value at the head of a text, and the text after it.
* `Json.read`: a whole text.
-/

namespace Provision.Json

/-- A fault at the head of what is left. -/
def refuse {α : Type} (cause : Cause) (rest : List Char) : Except Fault α :=
  .error (.malformed cause rest.length)

/-- The four characters that may stand between tokens. -/
def isBlank (c : Char) : Bool := c = ' ' || c = '\t' || c = '\n' || c = '\r'

/-- The text after any blanks. -/
def skipBlanks (s : List Char) : List Char := s.dropWhile isBlank

/-- The text after a given word, if it starts with it. -/
def afterWord? : List Char → List Char → Option (List Char)
  | [], s => some s
  | _ :: _, [] => none
  | w :: ws, c :: cs => if w = c then afterWord? ws cs else none

/-! ## Texts -/

/-- The value of a hexadecimal digit. -/
def hexDigit? (c : Char) : Option Nat :=
  if '0' ≤ c ∧ c ≤ '9' then some (c.toNat - '0'.toNat)
  else if 'a' ≤ c ∧ c ≤ 'f' then some (c.toNat - 'a'.toNat + 10)
  else if 'A' ≤ c ∧ c ≤ 'F' then some (c.toNat - 'A'.toNat + 10)
  else none

/-- The number written by four hexadecimal digits. -/
def hex4? (a b c d : Char) : Option Nat := do
  let a ← hexDigit? a
  let b ← hexDigit? b
  let c ← hexDigit? c
  let d ← hexDigit? d
  return ((a * 16 + b) * 16 + c) * 16 + d

/-- Whether a unit opens a surrogate pair. -/
def isHighSurrogate (unit : Nat) : Bool := 0xD800 ≤ unit && unit < 0xDC00

/-- Whether a unit closes a surrogate pair. -/
def isLowSurrogate (unit : Nat) : Bool := 0xDC00 ≤ unit && unit < 0xE000

/-- The spelling of a unit that stands alone. -/
def spellUnit (unit : Nat) : List Char :=
  if isHighSurrogate unit || isLowSurrogate unit then (Text.Point.half unit).spelling
  else [Char.ofNat unit]

/-- The character of a surrogate pair. -/
def charOfPair (high low : Nat) : Char :=
  Char.ofNat (0x10000 + (high - 0xD800) * 0x400 + (low - 0xDC00))

/-- The spelling of a list of units, surrogate pairs joined. -/
def joinUnits : List Nat → List Char
  | [] => []
  | [u] => spellUnit u
  | u :: v :: rest =>
    if isHighSurrogate u && isLowSurrogate v then
      (Text.Point.char (charOfPair u v)).spelling ++ joinUnits rest
    else spellUnit u ++ joinUnits (v :: rest)

/-- The character written by a backslash and a letter. -/
def simpleEscape? (c : Char) : Option Char :=
  if c = '\x22' then some '\x22'
  else if c = '\\' then some '\\'
  else if c = '/' then some '/'
  else if c = 'b' then some '\x08'
  else if c = 'f' then some '\x0c'
  else if c = 'n' then some '\n'
  else if c = 'r' then some '\r'
  else if c = 't' then some '\t'
  else none

/-- The units of a text after its opening quote, and what follows the closing one; `opened` is
how much was left at the opening quote and `acc` holds the units read so far, last first. A
`\u` escape is one unit and needs a character after it. -/
def readUnits (opened : Nat) (acc : List Nat) : List Char → Except Fault (List Nat × List Char)
  | [] => .error (.malformed .unterminated opened)
  | c :: rest =>
    if c = '\x22' then .ok (acc.reverse, rest)
    else if c = '\\' then
      match rest with
      | [] => .error (.malformed .unterminated opened)
      | k :: tail =>
        if k = 'u' then
          match tail with
          | h₁ :: h₂ :: h₃ :: h₄ :: more =>
            match hex4? h₁ h₂ h₃ h₄ with
            | some unit =>
              if more.isEmpty then refuse .badUnicodeEscape (k :: tail)
              else readUnits opened (unit :: acc) more
            | none => refuse .badUnicodeEscape (k :: tail)
          | _ => refuse .badUnicodeEscape (k :: tail)
        else
          match simpleEscape? k with
          | some ch => readUnits opened (ch.toNat :: acc) tail
          | none => refuse .badEscape (c :: rest)
    else if c.toNat < 0x20 then refuse .controlCharacter (c :: rest)
    else readUnits opened (c.toNat :: acc) rest

/-- A text after its opening quote, and what follows the closing one. -/
def readText (opened : Nat) (s : List Char) : Except Fault (String × List Char) :=
  (readUnits opened [] s).map fun (units, rest) => (String.ofList (joinUnits units), rest)

/-! ## Numbers -/

/-- The number written by decimal digits. -/
def ofDigits (ds : List Char) : Nat := ds.foldl (fun n c => n * 10 + (c.toNat - '0'.toNat)) 0

/-- The digits of an integer part: a lone zero, or digits that do not start with zero. -/
def intDigits? : List Char → Option (List Char × List Char)
  | [] => none
  | c :: cs =>
    if c = '0' then some (['0'], cs)
    else if c.isDigit then some (c :: cs.takeWhile Char.isDigit, cs.dropWhile Char.isDigit)
    else none

/-- The digits after a decimal point, none when there is no point with a digit after it. -/
def fractionDigits : List Char → List Char × List Char
  | '.' :: cs =>
    if (cs.takeWhile Char.isDigit).isEmpty then ([], '.' :: cs)
    else (cs.takeWhile Char.isDigit, cs.dropWhile Char.isDigit)
  | cs => ([], cs)

/-- The sign and digits of an exponent, none when the digits are missing. -/
def exponent? : List Char → Option (Int × List Char)
  | [] => none
  | e :: cs =>
    if e = 'e' ∨ e = 'E' then
      let (neg, ds) := match cs with
        | '-' :: ds => (true, ds)
        | '+' :: ds => (false, ds)
        | ds => (false, ds)
      let digits := ds.takeWhile Char.isDigit
      if digits.isEmpty then none
      else
        let n : Int := ofDigits digits
        some (if neg then -n else n, ds.dropWhile Char.isDigit)
    else none

/-- A number after its sign. -/
def readMagnitude (neg : Bool) (whole s : List Char) : Except Fault (Value × List Char) :=
  match intDigits? s with
  | none => refuse .expectingValue whole
  | some (ds, rest) =>
    let (fraction, rest) := fractionDigits rest
    let power := exponent? rest
    if fraction.isEmpty ∧ power.isNone then
      if Text.digitLimit < ds.length then .error (.tooManyDigits ds.length)
      else
        let n : Int := ofDigits ds
        .ok (.int (if neg then -n else n), rest)
    else
      let (e, rest) := power.getD (0, rest)
      .ok (.double (Double.ofDecimal neg (ofDigits (ds ++ fraction)) (e - fraction.length)), rest)

/-- A number at the head of a text. -/
def readNumber : List Char → Except Fault (Value × List Char)
  | '-' :: cs => readMagnitude true ('-' :: cs) cs
  | cs => readMagnitude false cs cs

/-! ## Values -/

/-- The words that are values. -/
def words : List (List Char × Value) :=
  [("null".toList, .null), ("true".toList, .bool true), ("false".toList, .bool false),
   ("NaN".toList, .double .nan), ("Infinity".toList, .double (Double.infinity false)),
   ("-Infinity".toList, .double (Double.infinity true))]

/-- A word at the head of a text. -/
def readWord? (s : List Char) : Option (Value × List Char) :=
  words.findSome? fun (word, value) => (afterWord? word s).map fun rest => (value, rest)

mutual

/-- A value at the head of a text, nested at most `depth` deep. The first argument bounds the
number of calls in a chain; of two calls in a row at least one consumes a character, so that
`readAll` gives enough. -/
def readValue : Nat → Nat → List Char → Except Fault (Value × List Char)
  | 0, _, _ => .error .tooDeep
  | fuel + 1, depth, s =>
    match s with
    | '\x22' :: rest => do
      let (text, rest) ← readText s.length rest
      return (.text text, rest)
    | '[' :: rest =>
      if depth = 0 then .error .tooDeep
      else match skipBlanks rest with
        | ']' :: rest => .ok (.list [], rest)
        | rest => do
          let (items, rest) ← readItems fuel (depth - 1) rest
          return (.list items, rest)
    | '\x7b' :: rest =>
      if depth = 0 then .error .tooDeep
      else match skipBlanks rest with
        | '\x7d' :: rest => .ok (.table [], rest)
        | rest => do
          let (entries, rest) ← readEntries fuel (depth - 1) rest
          return (.table (Table.ofEntries entries), rest)
    | s =>
      match readWord? s with
      | some found => .ok found
      | none => readNumber s

/-- One or more items up to the closing bracket. -/
def readItems : Nat → Nat → List Char → Except Fault (List Value × List Char)
  | 0, _, _ => .error .tooDeep
  | fuel + 1, depth, s => do
    let (item, rest) ← readValue fuel depth s
    match skipBlanks rest with
    | ']' :: rest => return ([item], rest)
    | ',' :: rest =>
      let (items, rest) ← readItems fuel depth (skipBlanks rest)
      return (item :: items, rest)
    | rest => refuse .expectingComma rest

/-- One or more entries up to the closing brace. -/
def readEntries : Nat → Nat → List Char → Except Fault (List (String × Value) × List Char)
  | 0, _, _ => .error .tooDeep
  | fuel + 1, depth, s =>
    match s with
    | '\x22' :: tail => do
      let (key, rest) ← readText s.length tail
      match skipBlanks rest with
      | ':' :: rest =>
        let (value, rest) ← readValue fuel depth (skipBlanks rest)
        match skipBlanks rest with
        | '\x7d' :: rest => return ([(key, value)], rest)
        | ',' :: rest =>
          let (entries, rest) ← readEntries fuel depth (skipBlanks rest)
          return ((key, value) :: entries, rest)
        | rest => refuse .expectingComma rest
      | rest => refuse .expectingColon rest
    | s => refuse .expectingName s

end

/-- A whole text: a value with nothing but blanks around it. -/
def readAll (s : List Char) : Except Fault Value :=
  match s with
  | '\uFEFF' :: _ => refuse .byteOrderMark s
  | _ => do
    let (value, rest) ← readValue (2 * s.length + 2) Value.depthLimit (skipBlanks s)
    match skipBlanks rest with
    | [] => return value
    | rest => refuse .extraData rest

/-- The value a text denotes, or why it denotes none. -/
def read (text : String) : Except Error Value :=
  let cs := text.toList
  (readAll cs).mapError (Error.locate cs)

end Provision.Json
