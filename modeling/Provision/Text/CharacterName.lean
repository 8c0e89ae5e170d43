import Provision.Text.Blank
import Provision.Text.CharacterNames
import Provision.Text.Lines

/-!
# Names of characters

Most characters have a name, in capital letters. The names of syllables and of ideographs are made
by rules; the others are listed, and in these small letters count as capital ones.

* `Text.isCharacterName`: whether some character has a name.
-/

namespace Provision.Text

/-- What follows a start, if the characters have it. -/
def after? (start : String) (cs : List Char) : Option (List Char) :=
  if start.toList.isPrefixOf cs then some (cs.drop start.length) else none

/-! ## Syllables -/

/-- The first sounds of syllables. -/
def firstSounds : List String :=
  ["G", "GG", "N", "D", "DD", "R", "M", "B", "BB", "S", "SS", "", "J", "JJ", "C", "K", "T", "P",
    "H"]

/-- The middle sounds of syllables. -/
def middleSounds : List String :=
  ["A", "AE", "YA", "YAE", "EO", "E", "YEO", "YE", "O", "WA", "WAE", "OE", "YO", "U", "WEO", "WE",
    "WI", "YU", "EU", "YI", "I"]

/-- The last sounds of syllables. -/
def lastSounds : List String :=
  ["", "G", "GG", "GS", "N", "NJ", "NH", "D", "L", "LG", "LM", "LB", "LS", "LT", "LP", "LH", "M",
    "B", "BS", "S", "SS", "NG", "J", "C", "K", "T", "P", "H"]

/-- What follows the longest of some sounds that the characters start with. -/
def afterSound? (sounds : List String) (cs : List Char) : Option (List Char) :=
  let longest := (sounds.filter (·.toList.isPrefixOf cs)).foldl
    (fun best sound =>
      match best with
      | none => some sound
      | some old => if old.length < sound.length then some sound else some old)
    (none : Option String)
  longest.map fun sound => cs.drop sound.length

/-- Whether the characters spell a syllable. -/
def isSyllable (cs : List Char) : Bool :=
  match afterSound? firstSounds cs with
  | none => false
  | some cs =>
    match afterSound? middleSounds cs with
    | none => false
    | some cs => afterSound? lastSounds cs = some []

/-! ## Numbers -/

/-- The value of a digit to the base sixteen, with capital letters. -/
def capitalHexValue? (c : Char) : Option Nat :=
  if c.isDigit then some (c.toNat - '0'.toNat)
  else if 'A' ≤ c ∧ c ≤ 'F' then some (c.toNat - 'A'.toNat + 10)
  else none

/-- The number that four or five digits to the base sixteen spell. -/
def codeNumber? (cs : List Char) : Option Nat :=
  if cs.length = 4 ∨ cs.length = 5 then
    cs.foldl (fun n? c => n?.bind fun n => (capitalHexValue? c).map (n * 16 + ·)) (some 0)
  else none

/-- Whether a number lies in one of some closed intervals. -/
def liesIn (ranges : List (Nat × Nat)) (n : Nat) : Bool :=
  ranges.any fun (first, last) => first ≤ n && n ≤ last

/-- The unified ideographs. -/
def ideographRanges : List (Nat × Nat) :=
  [(0x3400, 0x4DBF), (0x4E00, 0x9FFF), (0x20000, 0x2A6DF), (0x2A700, 0x2B738), (0x2B740, 0x2B81D),
    (0x2B820, 0x2CEA1), (0x2CEB0, 0x2EBE0), (0x30000, 0x3134A)]

/-- The characters whose names are some words and their number. -/
def numberedNames : List (String × List (Nat × Nat)) :=
  [("CJK COMPATIBILITY IDEOGRAPH-", [(0xF900, 0xFA6D), (0xFA70, 0xFAD9), (0x2F800, 0x2FA1D)]),
    ("KHITAN SMALL SCRIPT CHARACTER-", [(0x18B00, 0x18CD5)]),
    ("NUSHU CHARACTER-", [(0x1B170, 0x1B2FB)])]

/-- Whether the characters are a name with the number of its character. -/
def isNumberedName (cs : List Char) : Bool :=
  numberedNames.any fun (start, ranges) =>
    match after? start cs with
    | none => false
    | some digits =>
      digits.head? ≠ some '0' && ((codeNumber? digits).map (liesIn ranges)).getD false

/-- Whether the characters are the name of a component, which has a number of three digits. -/
def isComponentName (cs : List Char) : Bool :=
  match after? "TANGUT COMPONENT-" cs with
  | none => false
  | some digits =>
    let n := digits.foldl (fun n c => n * 10 + (c.toNat - '0'.toNat)) 0
    digits.length = 3 && digits.all Char.isDigit && 1 ≤ n && n ≤ 768

/-! ## The list -/

/-- Whether a name is in a list that goes on with some entries after the name at hand. -/
def isListed (name : List String) : List String → List String → Bool
  | current, [] => current == name
  | current, word :: rest =>
    match word.toList with
    | c :: cs =>
      if c.isLower then
        current == name ||
          isListed name (current.take (c.toNat - 'a'.toNat) ++ [String.ofList cs]) rest
      else isListed name (current ++ [word]) rest
    | [] => isListed name current rest

/-- Whether some character has a name. -/
def isCharacterName (cs : List Char) : Bool :=
  match after? "HANGUL SYLLABLE " cs, after? "CJK UNIFIED IDEOGRAPH-" cs with
  | some sounds, _ => isSyllable sounds
  | none, some digits => ((codeNumber? digits).map (liesIn ideographRanges)).getD false
  | none, none =>
    let capital := cs.map Char.toUpper
    isNumberedName capital || isComponentName capital ||
      isListed (split ' ' (String.ofList capital)) [] (words characterNames)

end Provision.Text
