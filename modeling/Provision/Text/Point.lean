/-!
# Points of text

A document may spell one half of a surrogate pair, which is no character by itself. So a text is
a sequence of points: characters, and halves that stand alone. A string holds characters only; in
it a lone half is spelled by two of them, a mark and a stand-in from a private range. The mark is
the last number of all, which is no character of any script; where a text holds it all the same,
it is spelled twice. Every other character spells itself.

* `Text.points`: the points that a text spells.
* `Text.ofPoints`: the text that spells points.
-/

namespace Provision.Text

/-- A character, or half of a surrogate pair that stands alone. -/
inductive Point where
  | char (c : Char)
  | half (unit : Nat)
deriving DecidableEq, Repr

/-- The character in front of a stand-in. -/
def mark : Char := Char.ofNat 0x10FFFF

/-- How far the stand-in of a half is from it. -/
def standInShift : Nat := 0x1000

/-- The character that stands for a half behind a mark. -/
def standIn (unit : Nat) : Char := Char.ofNat (unit + standInShift)

/-- The half that a character stands for behind a mark. -/
def half? (c : Char) : Option Nat :=
  if 0xD800 + standInShift ≤ c.toNat ∧ c.toNat ≤ 0xDFFF + standInShift then
    some (c.toNat - standInShift)
  else none

/-- The number of a point. -/
def Point.number : Point → Nat
  | .char c => c.toNat
  | .half unit => unit

/-- Whether a point is a character. -/
def Point.isChar : Point → Bool
  | .char _ => true
  | .half _ => false

/-- The characters that spell a point. -/
def Point.spelling : Point → List Char
  | .char c => if c = mark then [mark, mark] else [c]
  | .half unit => [mark, standIn unit]

/-- The text that spells points. -/
def ofPoints (ps : List Point) : String := String.ofList (ps.flatMap Point.spelling)

/-- The points that characters spell. -/
def points : List Char → List Point
  | [] => []
  | [c] => [.char c]
  | c :: d :: cs =>
    if c ≠ mark then .char c :: points (d :: cs)
    else if d = mark then .char mark :: points cs
    else match half? d with
      | some unit => .half unit :: points cs
      | none => .char c :: points (d :: cs)

/-- How many points characters spell. -/
def count (cs : List Char) : Nat := (points cs).length

/-- The character that a point is. -/
def Point.char? : Point → Option Char
  | .char c => some c
  | .half _ => none

/-- The text that spells the characters of a string, none of which stands for another. -/
def ofPlain (s : String) : String := ofPoints (s.toList.map Point.char)

/-- The characters of a text as a string, in which none stands for another. -/
def toPlain (s : String) : String := String.ofList ((points s.toList).filterMap Point.char?)

/-- The numbers of the points of a text. -/
def numbers (s : String) : List Nat := (points s.toList).map Point.number

/-- Whether numbers come before others, or are the same: the first that differs counts. -/
def inOrder : List Nat → List Nat → Bool
  | [], _ => true
  | _ :: _, [] => false
  | m :: ms, n :: ns => m < n || (m = n && inOrder ms ns)

/-- Whether a text comes before another one, or is the same, in the order of their points. -/
def precedes (s t : String) : Bool := inOrder (numbers s) (numbers t)

/-- Whether a text holds a lone half. -/
def hasHalf (s : String) : Bool := (points s.toList).any fun p => !p.isChar

/-- A text that can be encoded: the replacement character stands for each of the three bytes that
a lone half would take. -/
def encodable (s : String) : String :=
  ofPoints ((points s.toList).flatMap fun p =>
    if p.isChar then [p] else List.replicate 3 (.char '�'))

end Provision.Text
