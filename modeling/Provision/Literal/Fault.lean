import Provision.Text.Integer
import Provision.Text.Printable
import Provision.Text.Unencodable

/-!
# Faults of literals

A text may fail to be an expression, and an expression may fail to be a literal.

* `Literal.Fault`: why a text is no expression.
* `Literal.Refusal`: why an expression is no literal.
-/

namespace Provision.Literal

/-- Why an escape in a quoted text cannot be read. -/
inductive EscapeFault where
  /-- An escape with a letter and this many digits, of which some are missing. -/
  | truncated (letter : Char) (digits : Nat)
  | beyondUnicode
  | unnamed
  | unknownName
deriving DecidableEq, Repr

/-- The wording of the fault of an escape. -/
def EscapeFault.message : EscapeFault → String
  | .truncated letter digits =>
    "truncated \\" ++ String.singleton letter ++ String.ofList (List.replicate digits 'X') ++
      " escape"
  | .beyondUnicode => "illegal Unicode character"
  | .unnamed => "malformed \\N character escape"
  | .unknownName => "unknown Unicode character name"

/-- Why the fields of a formatted text cannot be read. -/
inductive FieldFault where
  | singleClosing
  | missingClosing
  | backslash
  | comment
  | empty
  /-- No expression stands before a sign that follows one. -/
  | emptyBefore (sign : Char)
  | unmatched (parenthesis : Char)
  | mismatched (closing opening : Char)
  | unendedText
  | tooManyOpen
  | tooDeep
  | badConversion
deriving DecidableEq, Repr

/-- The wording of the fault of a field. -/
def FieldFault.message : FieldFault → String
  | .singleClosing => "f-string: single '\x7d' is not allowed"
  | .missingClosing => "f-string: expecting '\x7d'"
  | .backslash => "f-string expression part cannot include a backslash"
  | .comment => "f-string expression part cannot include '#'"
  | .empty => "f-string: empty expression not allowed"
  | .emptyBefore sign => "f-string: expression required before '" ++ String.singleton sign ++ "'"
  | .unmatched parenthesis => "f-string: unmatched '" ++ String.singleton parenthesis ++ "'"
  | .mismatched closing opening =>
    "f-string: closing parenthesis '" ++ String.singleton closing ++
      "' does not match opening parenthesis '" ++ String.singleton opening ++ "'"
  | .unendedText => "f-string: unterminated string"
  | .tooManyOpen => "f-string: too many nested parenthesis"
  | .tooDeep => "f-string: expressions nested too deeply"
  | .badConversion => "f-string: invalid conversion character: expected 's', 'r', or 'a'"

/-- Why a text is no expression. -/
inductive Fault where
  | unexpected
  | unexpectedIndent
  | badCharacter (c : Char)
  | badNumber (kind : String)
  | badDigit (digit : Char) (kind : String)
  | leadingZeros
  | tooManyDigits (count : Nat)
  | unendedText (line : Nat)
  | unendedLongText (line : Nat)
  | unmatched (closing : Char)
  /-- The line is given if it is another one. -/
  | mismatched (closing opening : Char) (line : Option Nat)
  | neverClosed (opening : Char)
  | tooDeep
  | afterContinuation
  | earlyEnd
  | unevenIndent
  | mixedIndent
  /-- An escape from one position to before another. -/
  | badEscape (e : EscapeFault) (first last : Nat)
  | badByteEscape (position : Nat)
  | foreignByte
  | mixedTexts
  | badField (f : FieldFault)
  /-- A fault of the expression in a field. -/
  | inField (f : Fault)
  | forgottenComma
  | missingElse
  | missingCall (name : String)
  | bindsOther (kind : String)
  | assignsName
  | assignsOther (kind : String)
  | assignsTarget (kind : String)
  | assignsArgument
  | unpacksInClause
  | unpacksTableInClause
  | bareTarget
  | starredGroup
  | doublyStarredGroup
  | starredEntry
  | missingEntry
  | missingColon
  | bareClause
  | unpackedBeforeStarred
  | namedBeforePlain
  | unpackedBeforePlain
  | plainAfterDefault
  | groupedParameters
  | nothingBeforeSlash
  | secondSlash
  | slashAfterStar
  | noCommaAfterSlash
  | nothingAfterStar
  | starredDefault
  | secondStar
  | doublyStarredDefault
  | afterDoublyStarred
  | missingDefault
deriving DecidableEq, Repr

/-- The number of a character, for a message. -/
def codePoint (c : Char) : String := "U+" ++ (String.ofList (Text.hex 4 c.toNat)).toUpper

/-- The wording of a fault. -/
def Fault.message : Fault → String
  | .unexpected => "invalid syntax"
  | .unexpectedIndent => "unexpected indent"
  | .badCharacter c =>
    if Text.isPrintable c then
      "invalid character '" ++ String.singleton c ++ "' (" ++ codePoint c ++ ")"
    else "invalid non-printable character " ++ codePoint c
  | .badNumber kind => "invalid " ++ kind ++ " literal"
  | .badDigit digit kind =>
    "invalid digit '" ++ String.singleton digit ++ "' in " ++ kind ++ " literal"
  | .leadingZeros =>
    "leading zeros in decimal integer literals are not permitted; " ++
      "use an 0o prefix for octal integers"
  | .tooManyDigits count =>
    (Text.IntegerFault.tooManyDigits count).message ++
      " - Consider hexadecimal for huge integer literals to avoid decimal conversion limits."
  | .unendedText line =>
    "unterminated string literal (detected at line " ++ toString line ++ ")"
  | .unendedLongText line =>
    "unterminated triple-quoted string literal (detected at line " ++ toString line ++ ")"
  | .unmatched closing => "unmatched '" ++ String.singleton closing ++ "'"
  | .mismatched closing opening line =>
    "closing parenthesis '" ++ String.singleton closing ++
      "' does not match opening parenthesis '" ++ String.singleton opening ++ "'" ++
      (line.map fun n => " on line " ++ toString n).getD ""
  | .neverClosed opening => "'" ++ String.singleton opening ++ "' was never closed"
  | .tooDeep => "too many nested parentheses"
  | .afterContinuation => "unexpected character after line continuation character"
  | .earlyEnd => "unexpected EOF while parsing"
  | .unevenIndent => "unindent does not match any outer indentation level"
  | .mixedIndent => "inconsistent use of tabs and spaces in indentation"
  | .badEscape e first last =>
    "(unicode error) 'unicodeescape' codec can't decode bytes in position " ++ toString first ++
      "-" ++ toString (last - 1) ++ ": " ++ e.message
  | .badByteEscape position =>
    "(value error) invalid \\x escape at position " ++ toString position
  | .foreignByte => "bytes can only contain ASCII literal characters"
  | .mixedTexts => "cannot mix bytes and nonbytes literals"
  | .badField f => f.message
  | .inField f => "f-string: " ++ f.message
  | .forgottenComma => "invalid syntax. Perhaps you forgot a comma?"
  | .missingElse => "expected 'else' after 'if' expression"
  | .missingCall name =>
    "Missing parentheses in call to '" ++ name ++ "'. Did you mean " ++ name ++ "(...)?"
  | .bindsOther kind => "cannot use assignment expressions with " ++ kind
  | .assignsName => "invalid syntax. Maybe you meant '==' or ':=' instead of '='?"
  | .assignsOther kind =>
    "cannot assign to " ++ kind ++ " here. Maybe you meant '==' instead of '='?"
  | .assignsTarget kind => "cannot assign to " ++ kind
  | .assignsArgument =>
    "expression cannot contain assignment, perhaps you meant \"==\"?"
  | .unpacksInClause => "iterable unpacking cannot be used in comprehension"
  | .unpacksTableInClause => "dict unpacking cannot be used in dict comprehension"
  | .bareTarget => "did you forget parentheses around the comprehension target?"
  | .starredGroup => "cannot use starred expression here"
  | .doublyStarredGroup => "cannot use double starred expression here"
  | .starredEntry => "cannot use a starred expression in a dictionary value"
  | .missingEntry => "expression expected after dictionary key and ':'"
  | .missingColon => "':' expected after dictionary key"
  | .bareClause => "Generator expression must be parenthesized"
  | .unpackedBeforeStarred =>
    "iterable argument unpacking follows keyword argument unpacking"
  | .namedBeforePlain => "positional argument follows keyword argument"
  | .unpackedBeforePlain => "positional argument follows keyword argument unpacking"
  | .plainAfterDefault => "non-default argument follows default argument"
  | .groupedParameters => "Lambda expression parameters cannot be parenthesized"
  | .nothingBeforeSlash => "at least one argument must precede /"
  | .secondSlash => "/ may appear only once"
  | .slashAfterStar => "/ must be ahead of *"
  | .noCommaAfterSlash => "expected comma between / and *"
  | .nothingAfterStar => "named arguments must follow bare *"
  | .starredDefault => "var-positional argument cannot have default value"
  | .secondStar => "* argument may appear only once"
  | .doublyStarredDefault => "var-keyword argument cannot have default value"
  | .afterDoublyStarred => "arguments cannot follow var-keyword argument"
  | .missingDefault => "expected default value expression"

/-- Why an expression is no literal. -/
inductive Refusal where
  | unencodable (u : Text.Unencodable)
  | zeroByte
  /-- The expression goes too deep to be read. -/
  | exhausted
  /-- Too many parts of the expression are inside each other. -/
  | tooDeep
  | malformed
  /-- A table takes over the entries of another one. -/
  | noKey
  | unhashable (kind : String)
deriving DecidableEq, Repr

/-- The wording of a refusal. -/
def Refusal.message : Refusal → String
  | .unencodable u => u.message
  | .zeroByte => "source code string cannot contain null bytes"
  | .exhausted => ""
  | .tooDeep => "maximum recursion depth exceeded during ast construction"
  | .malformed => "malformed node or string"
  | .noKey => "malformed node or string: None"
  | .unhashable kind => "unhashable type: '" ++ kind ++ "'"

end Provision.Literal
