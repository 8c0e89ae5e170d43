import Provision.Literal.Fault

/-!
# Numbers in expressions

A number is an integer to the base ten, two, eight or sixteen, or a decimal fraction with an
exponent, and may be imaginary. Of the number itself nothing is kept but its kind and how many
digits it has.

* `Literal.readNumber`, `Literal.readFraction`: a number at the start of some characters.
-/

namespace Provision.Literal

/-- A number, with the count of its digits if it is an integer in decimal digits. -/
structure Numeral where
  imaginary : Bool
  digits : Option Nat
deriving DecidableEq, Repr

/-- Whether a character may be part of a name, as far as can be told without a table. -/
def maybeInName (c : Char) : Bool := c.isAlphanum || c = '_' || 128 ≤ c.toNat

/-- The rest behind digits, of which an earlier one was read; an underscore may stand between two
digits. -/
def afterDigits (isDigit : Char → Bool) (fault : Option Char → Fault) :
    List Char → Except Fault (List Char)
  | [] => .ok []
  | ['_'] => .error (fault none)
  | '_' :: d :: cs =>
    if isDigit d then afterDigits isDigit fault cs else .error (fault (some d))
  | c :: cs => if isDigit c then afterDigits isDigit fault cs else .ok (c :: cs)

/-- Whether the characters start with a word that ends there. -/
def startsWithWord (word : String) (cs : List Char) : Bool :=
  word.toList.isPrefixOf cs && !((cs.drop word.length).head?.map maybeInName).getD false

/-- The reserved words that may follow a number directly if they end there. -/
def wholeFollowers : List String := ["and", "else", "for", "or", "not"]

/-- A number ends where a reserved word starts or no name could go on. -/
def endNumber (kind : String) (cs : List Char) : Except Fault Unit :=
  if wholeFollowers.any (startsWithWord · cs) ||
      ["if", "in", "is"].any (·.toList.isPrefixOf cs) then .ok ()
  else if (cs.head?.map maybeInName).getD false then .error (.badNumber kind)
  else .ok ()

/-- The fault of a digit that a number to a base does not have. -/
def baseFault (kind : String) : Option Char → Fault
  | some c => if c.isDigit then .badDigit c kind else .badNumber kind
  | none => .badNumber kind

/-- The rest behind a number to a base, after the letter of the base. -/
def afterBase (kind : String) (isDigit : Char → Bool) (cs : List Char) :
    Except Fault (List Char) := do
  let fault := baseFault kind
  let cs := match cs with
    | '_' :: cs => cs
    | cs => cs
  match cs with
  | [] => throw (fault none)
  | c :: cs =>
    if !isDigit c then throw (fault (some c))
    let rest ← afterDigits isDigit fault cs
    match rest with
    | c :: _ => if c.isDigit then throw (fault (some c))
    | [] => pure ()
    endNumber kind rest
    pure rest

/-- Whether a character is a digit to the base sixteen. -/
def isHexDigit (c : Char) : Bool := c.isDigit || ('a' ≤ c && c ≤ 'f') || ('A' ≤ c && c ≤ 'F')

/-- The rest behind decimal digits. -/
def afterDecimal (cs : List Char) : Except Fault (List Char) :=
  afterDigits Char.isDigit (fun _ => .badNumber "decimal") cs

/-- A number from its exponent on, if it has one. -/
def readExponent (digits : Option Nat) (cs : List Char) : Except Fault (Numeral × List Char) := do
  let close (digits : Option Nat) (cs : List Char) : Except Fault (Numeral × List Char) := do
    match cs with
    | c :: rest =>
      if c = 'j' || c = 'J' then
        endNumber "imaginary" rest
        return (⟨true, none⟩, rest)
    | [] => pure ()
    endNumber "decimal" cs
    pure (⟨false, digits⟩, cs)
  match cs with
  | e :: rest =>
    if e = 'e' || e = 'E' then
      match rest with
      | c :: after =>
        if c.isDigit then close none (← afterDecimal after)
        else if c = '+' || c = '-' then
          match after with
          | d :: after =>
            if d.isDigit then close none (← afterDecimal after) else throw (.badNumber "decimal")
          | [] => throw (.badNumber "decimal")
        else close digits cs
      | [] => close digits cs
    else close digits cs
  | [] => close digits cs

/-- A number from behind its point on. -/
def readFraction (cs : List Char) : Except Fault (Numeral × List Char) := do
  match cs with
  | c :: rest => if c.isDigit then readExponent none (← afterDecimal rest) else readExponent none cs
  | [] => readExponent none []

/-- A number that starts with a digit. An integer has no zeros in front. -/
def readDecimal (cs : List Char) : Except Fault (Numeral × List Char) := do
  let rest ← afterDecimal cs
  let digits := (cs.take (cs.length - rest.length)).filter Char.isDigit
  match rest with
  | '.' :: rest => readFraction rest
  | rest =>
    let goesOn := (rest.head?.map (['e', 'E', 'j', 'J'].contains ·)).getD false
    if !goesOn && digits.head? = some '0' && digits.any (· ≠ '0') then throw .leadingZeros
    readExponent (some digits.length) rest

/-- A number. -/
def readNumber (cs : List Char) : Except Fault (Numeral × List Char) :=
  let based (kind : String) (isDigit : Char → Bool) (cs : List Char) :=
    (afterBase kind isDigit cs).map fun rest => (Numeral.mk false none, rest)
  match cs with
  | '0' :: c :: rest =>
    if c = 'x' || c = 'X' then based "hexadecimal" isHexDigit rest
    else if c = 'o' || c = 'O' then based "octal" (fun d => '0' ≤ d && d < '8') rest
    else if c = 'b' || c = 'B' then based "binary" (fun d => d = '0' || d = '1') rest
    else readDecimal cs
  | cs => readDecimal cs

end Provision.Literal
