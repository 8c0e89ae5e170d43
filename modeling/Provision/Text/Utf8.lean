import Provision.Text.Unencodable

/-!
# Reading UTF-8

Bytes are read one at a time. The bytes of a character that is not complete are pending; the
next byte completes it, adds to it, or shows that it cannot be completed.

* `Utf8.decode`: the text of some bytes, or the first place where they are not UTF-8.
-/

namespace Provision.Utf8

/-- Why bytes are not UTF-8. -/
inductive Reason where
  | startByte
  | continuationByte
  | endOfData
deriving DecidableEq, Repr

/-- The wording of a reason. -/
def Reason.message : Reason → String
  | .startByte => "invalid start byte"
  | .continuationByte => "invalid continuation byte"
  | .endOfData => "unexpected end of data"

/-- The first place where bytes are not UTF-8: the bytes at fault and where they stand. -/
structure Fault where
  position : Nat
  bytes : List UInt8
  reason : Reason
deriving DecidableEq, Repr

/-- A byte as two hexadecimal digits. -/
def hexByte (b : UInt8) : String :=
  String.ofList [Nat.digitChar (b.toNat / 16), Nat.digitChar (b.toNat % 16)]

/-- The wording of a fault. -/
def Fault.message (f : Fault) : String :=
  "'utf-8' codec can't decode " ++
    (match f.bytes with
      | [b] => "byte 0x" ++ hexByte b ++ " in position " ++ toString f.position
      | bs => "bytes in position " ++ toString f.position ++ "-" ++
        toString (f.position + bs.length - 1)) ++
    ": " ++ f.reason.message

/-- How many bytes a character has that starts with a byte. -/
def lengthFrom? (first : UInt8) : Option Nat :=
  if first < 0x80 then some 1
  else if first < 0xC2 then none
  else if first < 0xE0 then some 2
  else if first < 0xF0 then some 3
  else if first < 0xF5 then some 4
  else none

/-- Whether a byte may stand second after a first one. Besides being a continuation byte it
must not make the character too long for its number, a surrogate, or too large. -/
def isSecond (first second : UInt8) : Bool :=
  second / 64 == 2 &&
    !(first == 0xE0 && second < 0xA0) && !(first == 0xED && second ≥ 0xA0) &&
    !(first == 0xF0 && second < 0x90) && !(first == 0xF4 && second ≥ 0x90)

/-- The number of a character from its bytes. -/
def number : List UInt8 → Nat
  | [] => 0
  | first :: rest =>
    let head := match rest.length with
      | 0 => first.toNat
      | 1 => first.toNat % 32
      | 2 => first.toNat % 16
      | _ => first.toNat % 8
    rest.foldl (fun n b => n * 64 + b.toNat % 64) head

/-- What a byte does to the pending ones. -/
inductive Advance where
  | char (c : Char)
  | more
  | wrong (reason : Reason)
deriving DecidableEq, Repr

/-- What a byte does to the pending ones. -/
def advance (pending : List UInt8) (b : UInt8) : Advance :=
  let grown := pending ++ [b]
  let complete (length : Nat) : Advance :=
    if grown.length = length then .char (Char.ofNat (number grown)) else .more
  match pending with
  | [] => match lengthFrom? b with
    | some length => complete length
    | none => .wrong .startByte
  | first :: later =>
    let fits := if later.isEmpty then isSecond first b else b / 64 == 2
    if fits then complete ((lengthFrom? first).getD 1) else .wrong .continuationByte

/-- The characters of bytes, given the pending ones and where these start. -/
def decodeFrom (position : Nat) (pending : List UInt8) :
    List UInt8 → Except Fault (List Char)
  | [] => if pending.isEmpty then .ok [] else .error ⟨position, pending, .endOfData⟩
  | b :: rest =>
    match advance pending b with
    | .char c => (decodeFrom (position + pending.length + 1) [] rest).map (c :: ·)
    | .more => decodeFrom position (pending ++ [b]) rest
    | .wrong reason =>
      .error ⟨position, if pending.isEmpty then [b] else pending, reason⟩

/-- The text of some bytes. -/
def decode (bytes : List UInt8) : Except Fault String :=
  (decodeFrom 0 [] bytes).map fun cs => Text.ofPoints (cs.map .char)

/-- The bytes of a text; a lone half has none. -/
def encode (s : String) : List UInt8 := (Text.toPlain s).toUTF8.toList

/-- The bytes of a text without lone halves. -/
def encodeWhole (s : String) : Except Text.Unencodable (List UInt8) :=
  match Text.unencodable? s with
  | some u => .error u
  | none => .ok (encode s)

end Provision.Utf8
