import Provision.Text.Point

/-!
# Ordered tables

A table is a list of entries in insertion order, with text keys. Setting a key that is present
changes its value in place; a new key goes to the end. A table is built by `set` only, so a key
occurs at most once; `Table.Distinct` says so where it matters.
-/

namespace Provision

universe u v

/-- Entries in insertion order. -/
abbrev Table (α : Type u) := List (String × α)

namespace Table

variable {α : Type u} {β : Type v}

/-- The value of a key. -/
def get? (t : Table α) (key : String) : Option α := List.lookup key t

/-- Whether a key is present. -/
def has (t : Table α) (key : String) : Bool := (t.get? key).isSome

/-- The keys, in order. -/
def keys (t : Table α) : List String := List.map Prod.fst t

/-- The values, in order. -/
def values (t : Table α) : List α := List.map Prod.snd t

/-- Sets a key, in place if it is present and at the end otherwise. -/
def set : Table α → String → α → Table α
  | [], key, value => [(key, value)]
  | (k, v) :: rest, key, value =>
    if k = key then (k, value) :: rest else (k, v) :: set rest key value

/-- Removes a key. -/
def erase (t : Table α) (key : String) : Table α := List.filter (fun e => e.1 != key) t

/-- Sets every entry of the second table, in its order. -/
def update (t u : Table α) : Table α := List.foldl (fun t e => t.set e.1 e.2) t u

/-- The table of a list of entries, later ones counting. -/
def ofEntries (entries : List (String × α)) : Table α := update [] entries

/-- The entries in the order of their keys. -/
def sortedEntries (t : Table α) : List (String × α) :=
  List.mergeSort t fun a b => Text.precedes a.1 b.1

/-- The same keys with other values. -/
def mapValues (f : α → β) (t : Table α) : Table β := List.map (fun e => (e.1, f e.2)) t

/-- No key occurs twice. -/
def Distinct (t : Table α) : Prop := t.keys.Nodup

end Table

end Provision
