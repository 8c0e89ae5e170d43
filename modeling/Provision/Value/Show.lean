import Provision.Double.Decimal
import Provision.Text.Quoted
import Provision.Value.Basic

/-!
# Showing values

* `Value.quoted`: the form inside lists and mappings, where texts stand in quotes.
* `Value.plain`: the form in messages, where a text is shown as it is.
* `Value.lineText`: the form in a statement's line, where lists are written without spaces and
  their texts without quotes.

A value that has no text has no form either: the first fault on the way is told instead.
-/

namespace Provision.Value

/-- The word for the kind of a value. -/
def kindName : Value → String
  | .null => "NoneType"
  | .bool _ => "bool"
  | .int _ => "int"
  | .double _ => "float"
  | .text _ => "str"
  | .list _ => "list"
  | .table _ => "dict"
  | .failed _ => "Failed"
  | .handle _ _ _ => "Handle"

/-- The word for a truth value. -/
def boolWord (b : Bool) : String := if b then "True" else "False"

/-- Items between brackets, with a comma and a space between two. -/
def bracketed (left right : String) (items : List String) : String :=
  left ++ ", ".intercalate items ++ right

mutual

/-- The form inside lists and mappings, at a given depth. -/
def quotedAt : Nat → Value → Except TextFault String
  | _, .null => .ok "None"
  | _, .bool b => .ok (boolWord b)
  | _, .int n => integerText n
  | _, .double x => .ok x.text
  | _, .text s => .ok (Text.quoted s)
  | depth, .list items =>
    if depth < depthLimit then bracketed "[" "]" <$> quotedItems (depth + 1) items
    else .error .tooDeep
  | depth, .table entries =>
    if depth < depthLimit then bracketed "\x7b" "\x7d" <$> quotedEntries (depth + 1) entries
    else .error .tooDeep
  | _, .failed error => .ok ("Failed(kind='failed', error=" ++ Text.quoted error ++ ")")
  | _, .handle _ quoted _ => quoted

/-- The items of a list, each in quoted form. -/
def quotedItems (depth : Nat) : List Value → Except TextFault (List String)
  | [] => .ok []
  | v :: vs => do
    let shown ← quotedAt depth v
    return shown :: (← quotedItems depth vs)

/-- The entries of a mapping, key and value in quoted form. -/
def quotedEntries (depth : Nat) : List (String × Value) → Except TextFault (List String)
  | [] => .ok []
  | (k, v) :: es => do
    let shown ← quotedAt depth v
    return (Text.quoted k ++ ": " ++ shown) :: (← quotedEntries depth es)

end

/-- The form inside lists and mappings. -/
def quoted (v : Value) : Except TextFault String := quotedAt 0 v

/-- The form in messages, at a given depth. -/
def plainAt (depth : Nat) : Value → Except TextFault String
  | .text s => .ok s
  | .failed error => .ok ("<failed: " ++ error ++ ">")
  | .handle shown _ _ => shown
  | v => quotedAt depth v

/-- The form in messages. -/
def plain (v : Value) : Except TextFault String := plainAt 0 v

mutual

/-- The form in a statement's line, at a given depth. -/
def lineAt : Nat → Value → Except TextFault String
  | depth, .list items =>
    if depth < depthLimit then
      (fun shown => "[" ++ ",".intercalate shown ++ "]") <$> lineItems (depth + 1) items
    else .error .tooDeep
  | depth, v => v.plainAt depth

/-- The items of a list, each in line form. -/
def lineItems (depth : Nat) : List Value → Except TextFault (List String)
  | [] => .ok []
  | v :: vs => do
    let shown ← lineAt depth v
    return shown :: (← lineItems depth vs)

end

/-- The form in a statement's line. -/
def lineText (v : Value) : Except TextFault String := lineAt 0 v

/-- Parameters as a mapping is shown. -/
def showParams (params : Table Value) : Except TextFault String := quoted (.table params)

/-- A form of a value in a complaint, where a value without one is named by its kind. -/
def orKind (v : Value) : Except TextFault String → String
  | .ok shown => shown
  | .error _ => "<unprintable " ++ v.kindName ++ " object>"

end Provision.Value
