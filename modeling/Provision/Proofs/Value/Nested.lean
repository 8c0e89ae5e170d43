import Mathlib.Data.List.Forall2
import Provision.Proofs.Table
import Provision.Text.Integer
import Provision.Proofs.Text.Plain
import Provision.Value.Basic

/-!
# Values and what is nested in them

A property of values holds **throughout** a value if it holds of everything nested in it, the value
itself included. Such properties say what a document can hold and give back:

* `Value.Formed`: no key occurs twice, and a handle has something to be stored in its place;
* `Value.IsData`: it is neither a failed mark nor a handle, which documents have no word for;
* `Value.Plain`: texts and keys are plain;
* `Value.Short`: integers have at most `Text.digitLimit` digits.

JSON values are well-formed data with plain texts (`Value.IsJson`), of any length. Those that a
document can denote are short, too (`Value.Denotable`, `Json.denotable_iff_read`). `Value.depth`
counts the levels of lists and tables, and `Value.stored` is what is left of a value in a document:
a failed mark becomes its record, and a handle what is stored in its place.
-/

namespace Provision.Value

/-- Induction over a value, with the items and entries as they are listed. -/
@[elab_as_elim]
theorem nestedInduction {motive : Value → Prop} (null : motive .null)
    (bool : ∀ b, motive (.bool b)) (int : ∀ n, motive (.int n)) (double : ∀ x, motive (.double x))
    (text : ∀ s, motive (.text s))
    (list : ∀ items, (∀ v ∈ items, motive v) → motive (.list items))
    (table : ∀ entries, (∀ e ∈ entries, motive e.2) → motive (.table entries))
    (failed : ∀ error, motive (.failed error))
    (handle : ∀ shown quoted stored, (∀ v, stored = .ok v → motive v) →
      motive (.handle shown quoted stored)) :
    ∀ v, motive v
  | .null => null
  | .bool b => bool b
  | .int n => int n
  | .double x => double x
  | .text s => text s
  | .list items => list items fun v _ =>
    nestedInduction null bool int double text list table failed handle v
  | .table entries => table entries fun e _ =>
    nestedInduction null bool int double text list table failed handle e.2
  | .failed error => failed error
  | .handle shown quoted (.ok v) => handle shown quoted (.ok v) fun w hw => by
    cases hw
    exact nestedInduction null bool int double text list table failed handle v
  | .handle shown quoted (.error f) => handle shown quoted (.error f) fun w hw => by cases hw
termination_by v => sizeOf v
decreasing_by
  · have := List.sizeOf_lt_of_mem ‹v ∈ items›
    simp only [Value.list.sizeOf_spec]
    omega
  · have := List.sizeOf_lt_of_mem ‹e ∈ entries›
    obtain ⟨k, v⟩ := e
    simp only [Value.table.sizeOf_spec, Prod.mk.sizeOf_spec] at this ⊢
    omega
  · simp only [Value.handle.sizeOf_spec, Except.ok.sizeOf_spec]
    omega

/-! ## Throughout a value -/

/-- The first value is the second one, or is nested in it. -/
inductive Within : Value → Value → Prop
  | self (v : Value) : Within v v
  | item {w v : Value} {items : List Value} : v ∈ items → Within w v → Within w (.list items)
  | entry {w : Value} {e : String × Value} {entries : List (String × Value)} :
      e ∈ entries → Within w e.2 → Within w (.table entries)
  | stored {w v : Value} {shown quoted : Except TextFault String} :
      Within w v → Within w (.handle shown quoted (.ok v))

/-- A property of a value and of everything nested in it. -/
def Throughout (p : Value → Prop) (v : Value) : Prop := ∀ w, Within w v → p w

variable {p q : Value → Prop}

theorem throughout_list {items : List Value} :
    Throughout p (.list items) ↔ p (.list items) ∧ ∀ v ∈ items, Throughout p v := by
  constructor
  · intro h
    exact ⟨h _ (.self _), fun v hv w hw => h w (.item hv hw)⟩
  · rintro ⟨hself, hitems⟩ w hw
    cases hw with
    | self => exact hself
    | item hv hw => exact hitems _ hv w hw

theorem throughout_table {entries : List (String × Value)} :
    Throughout p (.table entries) ↔ p (.table entries) ∧ ∀ e ∈ entries, Throughout p e.2 := by
  constructor
  · intro h
    exact ⟨h _ (.self _), fun e he w hw => h w (.entry he hw)⟩
  · rintro ⟨hself, hentries⟩ w hw
    cases hw with
    | self => exact hself
    | entry he hw => exact hentries _ he w hw

theorem throughout_handle {shown quoted : Except TextFault String}
    {stored : Except TextFault Value} : Throughout p (.handle shown quoted stored) ↔
      p (.handle shown quoted stored) ∧ ∀ v, stored = .ok v → Throughout p v := by
  constructor
  · rintro h
    refine ⟨h _ (.self _), ?_⟩
    rintro v rfl w hw
    exact h w (.stored hw)
  · rintro ⟨hself, hstored⟩ w hw
    cases hw with
    | self => exact hself
    | stored hw => exact hstored _ rfl w hw

/-- A record, field by field. -/
theorem throughout_record {entries : List (String × Value)} (hself : p (.table entries)) :
    Throughout p (.table entries) ↔ entries.Forall fun e => Throughout p e.2 := by
  rw [throughout_table, List.forall_iff_forall_mem]
  exact and_iff_right hself

/-- A value without items and entries that is no handle. -/
def IsLeaf : Value → Prop
  | .list _ => False
  | .table _ => False
  | .handle _ _ _ => False
  | _ => True

/-- A leaf has nothing nested in it. -/
theorem throughout_leaf {v : Value} (hleaf : v.IsLeaf) (h : p v) : Throughout p v := by
  intro w hw
  cases hw with
  | self => exact h
  | item => exact hleaf.elim
  | entry => exact hleaf.elim
  | stored => exact hleaf.elim

/-! ## What a document can hold -/

/-- A table has no key twice, and a handle has something to be stored in its place. -/
def Formed : Value → Prop
  | .table entries => Table.Distinct entries
  | .handle _ _ stored => ∃ v, stored = .ok v
  | _ => True

/-- The texts and keys of a value are plain. -/
def Plain : Value → Prop
  | .text s => Text.IsPlain s
  | .table entries => ∀ k ∈ Table.keys entries, Text.IsPlain k
  | .failed error => Text.IsPlain error
  | _ => True

/-- A value is neither a failed mark nor a handle. -/
def IsData : Value → Prop
  | .failed _ => False
  | .handle _ _ _ => False
  | _ => True

/-- An integer has at most `Text.digitLimit` digits. Longer ones can neither be written nor be
read. -/
def Short : Value → Prop
  | .int n => (Nat.toDigits 10 n.natAbs).length ≤ Text.digitLimit
  | _ => True

/-- Well-formed data. -/
structure WellFormed (v : Value) : Prop where
  formed : v.Throughout Formed
  data : v.Throughout IsData

/-- A value that a document can denote. -/
structure Denotable (v : Value) : Prop extends WellFormed v where
  short : v.Throughout Short

/-- A JSON value: null, a truth value, a number, a text, or a list or table of such values. -/
structure IsJson (v : Value) : Prop extends WellFormed v where
  plain : v.Throughout Plain

theorem wellFormed_list {items : List Value} :
    WellFormed (.list items) ↔ ∀ v ∈ items, WellFormed v := by
  constructor
  · intro h v hv
    exact ⟨(throughout_list.1 h.formed).2 v hv, (throughout_list.1 h.data).2 v hv⟩
  · intro h
    exact ⟨throughout_list.2 ⟨trivial, fun v hv => (h v hv).formed⟩,
      throughout_list.2 ⟨trivial, fun v hv => (h v hv).data⟩⟩

theorem wellFormed_table {entries : List (String × Value)} :
    WellFormed (.table entries) ↔ Table.Distinct entries ∧ ∀ e ∈ entries, WellFormed e.2 := by
  constructor
  · intro h
    exact ⟨h.formed _ (.self _), fun e he =>
      ⟨(throughout_table.1 h.formed).2 e he, (throughout_table.1 h.data).2 e he⟩⟩
  · rintro ⟨hdistinct, h⟩
    exact ⟨throughout_table.2 ⟨hdistinct, fun e he => (h e he).formed⟩,
      throughout_table.2 ⟨trivial, fun e he => (h e he).data⟩⟩

theorem denotable_list {items : List Value} :
    Denotable (.list items) ↔ ∀ v ∈ items, Denotable v := by
  constructor
  · intro h v hv
    exact ⟨wellFormed_list.1 h.toWellFormed v hv, (throughout_list.1 h.short).2 v hv⟩
  · intro h
    exact ⟨wellFormed_list.2 fun v hv => (h v hv).toWellFormed,
      throughout_list.2 ⟨trivial, fun v hv => (h v hv).short⟩⟩

theorem denotable_table {entries : List (String × Value)} :
    Denotable (.table entries) ↔ Table.Distinct entries ∧ ∀ e ∈ entries, Denotable e.2 := by
  constructor
  · intro h
    obtain ⟨hdistinct, hentries⟩ := wellFormed_table.1 h.toWellFormed
    exact ⟨hdistinct, fun e he => ⟨hentries e he, (throughout_table.1 h.short).2 e he⟩⟩
  · rintro ⟨hdistinct, h⟩
    exact ⟨wellFormed_table.2 ⟨hdistinct, fun e he => (h e he).toWellFormed⟩,
      throughout_table.2 ⟨trivial, fun e he => (h e he).short⟩⟩

theorem wellFormed_leaf {v : Value} (hleaf : v.IsLeaf) (hformed : v.Formed) (hdata : v.IsData) :
    WellFormed v :=
  ⟨throughout_leaf hleaf hformed, throughout_leaf hleaf hdata⟩

theorem denotable_leaf {v : Value} (hleaf : v.IsLeaf) (hformed : v.Formed) (hdata : v.IsData)
    (hshort : v.Short) : Denotable v :=
  ⟨wellFormed_leaf hleaf hformed hdata, throughout_leaf hleaf hshort⟩

/-! ## Depth -/

mutual

/-- How many lists and tables are nested in each other. -/
def depth : Value → Nat
  | .list items => depthItems items + 1
  | .table entries => depthEntries entries + 1
  | .failed _ => 1
  | .handle _ _ (.ok v) => v.depth
  | _ => 0

/-- The greatest depth of an item. -/
def depthItems : List Value → Nat
  | [] => 0
  | v :: vs => max v.depth (depthItems vs)

/-- The greatest depth of an entry. -/
def depthEntries : List (String × Value) → Nat
  | [] => 0
  | (_, v) :: es => max v.depth (depthEntries es)

end

theorem depth_item {items : List Value} {v : Value} (hv : v ∈ items) :
    v.depth < (Value.list items).depth := by
  rw [depth]
  refine Nat.lt_succ_of_le ?_
  induction items with
  | nil => cases hv
  | cons w items ih =>
    rw [depthItems]
    rcases List.mem_cons.1 hv with rfl | hv
    · exact Nat.le_max_left _ _
    · exact Nat.le_trans (ih hv) (Nat.le_max_right _ _)

theorem depth_entry {entries : List (String × Value)} {e : String × Value} (he : e ∈ entries) :
    e.2.depth < (Value.table entries).depth := by
  rw [depth]
  refine Nat.lt_succ_of_le ?_
  induction entries with
  | nil => cases he
  | cons f entries ih =>
    obtain ⟨k, w⟩ := f
    rw [depthEntries]
    rcases List.mem_cons.1 he with rfl | he
    · exact Nat.le_max_left _ _
    · exact Nat.le_trans (ih he) (Nat.le_max_right _ _)

theorem depthEntries_le {entries : List (String × Value)} {n : ℕ}
    (h : ∀ e ∈ entries, e.2.depth ≤ n) : depthEntries entries ≤ n := by
  induction entries with
  | nil => exact Nat.zero_le n
  | cons e entries ih =>
    obtain ⟨k, v⟩ := e
    obtain ⟨hv, hrest⟩ := List.forall_mem_cons.1 h
    rw [depthEntries]
    exact Nat.max_le.2 ⟨hv, ih hrest⟩

/-! ## What is left of a value in a document -/

mutual

/-- The value that the document of a value denotes. -/
def stored : Value → Value
  | .list items => .list (storedItems items)
  | .table entries => .table (storedEntries entries)
  | .failed error => .table [("kind", .text "failed"), ("error", .text error)]
  | .handle _ _ (.ok v) => v.stored
  | v => v

/-- The items of a list, each as it is stored. -/
def storedItems : List Value → List Value
  | [] => []
  | v :: vs => v.stored :: storedItems vs

/-- The entries of a table, each as it is stored. -/
def storedEntries : List (String × Value) → List (String × Value)
  | [] => []
  | (k, v) :: es => (k, v.stored) :: storedEntries es

end

theorem storedItems_eq (items : List Value) : storedItems items = items.map stored := by
  induction items with
  | nil => rfl
  | cons v vs ih => rw [storedItems, ih, List.map_cons]

theorem storedEntries_eq (entries : List (String × Value)) :
    storedEntries entries = Table.mapValues stored entries := by
  unfold Table.mapValues
  induction entries with
  | nil => rfl
  | cons e es ih => obtain ⟨k, v⟩ := e; rw [storedEntries, ih, List.map_cons]

theorem stored_list (items : List Value) : stored (.list items) = .list (items.map stored) := by
  rw [stored, storedItems_eq]

theorem stored_table (entries : List (String × Value)) :
    stored (.table entries) = .table (Table.mapValues stored entries) := by
  rw [stored, storedEntries_eq]

/-- **Data is stored as it is.** -/
theorem stored_of_data {v : Value} (h : v.Throughout IsData) : v.stored = v := by
  induction v using nestedInduction with
  | null => rfl
  | bool b => rfl
  | int n => rfl
  | double x => rfl
  | text s => rfl
  | list items ih =>
    have hitems := (throughout_list.1 h).2
    rw [stored_list, List.map_congr_left fun v hv => ih v hv (hitems v hv), List.map_id']
  | table entries ih =>
    have hentries := (throughout_table.1 h).2
    rw [stored_table]
    unfold Table.mapValues
    rw [List.map_congr_left fun e he => by rw [ih e he (hentries e he)], List.map_id']
  | failed error => exact absurd (h _ (.self _)) id
  | handle shown quoted stored _ => exact absurd (h _ (.self _)) id

/-- **What is stored can be denoted**, if integers are short. -/
theorem stored_denotable {v : Value} (hformed : v.Throughout Formed) (hshort : v.Throughout Short) :
    v.stored.Denotable := by
  induction v using nestedInduction with
  | int n => exact denotable_leaf trivial trivial trivial (hshort _ (.self _))
  | list items ih =>
    have hitems := (throughout_list.1 hformed).2
    rw [stored_list]
    refine denotable_list.2 (List.forall_mem_map.2 fun v hv => ?_)
    exact ih v hv (hitems v hv) ((throughout_list.1 hshort).2 v hv)
  | table entries ih =>
    have hentries := (throughout_table.1 hformed).2
    have hdistinct : Table.Distinct entries := hformed _ (.self _)
    rw [stored_table]
    refine denotable_table.2 ⟨?_, List.forall_mem_map.2 fun e he => ?_⟩
    · unfold Table.Distinct
      rw [Table.keys_mapValues]
      exact hdistinct
    · exact ih e he (hentries e he) ((throughout_table.1 hshort).2 e he)
  | failed error =>
    refine denotable_table.2 ⟨by simp [Table.Distinct, Table.keys], ?_⟩
    refine List.forall_mem_cons.2 ⟨?_, List.forall_mem_singleton.2 ?_⟩
    all_goals exact denotable_leaf trivial trivial trivial trivial
  | handle shown quoted stored ih =>
    obtain ⟨v, rfl⟩ : ∃ v, stored = .ok v := hformed _ (.self _)
    rw [Value.stored]
    exact ih v rfl ((throughout_handle.1 hformed).2 v rfl) ((throughout_handle.1 hshort).2 v rfl)
  | _ => exact denotable_leaf trivial trivial trivial trivial

theorem depthItems_congr {items items' : List Value}
    (h : List.Forall₂ (fun v w => v.depth = w.depth) items items') :
    depthItems items = depthItems items' := by
  induction h with
  | nil => rfl
  | cons hv _ ih => rw [depthItems, depthItems, hv, ih]

theorem depthEntries_eq (entries : List (String × Value)) :
    depthEntries entries = depthItems (entries.map Prod.snd) := by
  induction entries with
  | nil => rfl
  | cons e entries ih => rw [depthEntries, ih, List.map_cons, depthItems]

/-- **What is stored is nested as deep.** -/
theorem depth_stored (v : Value) : v.stored.depth = v.depth := by
  induction v using nestedInduction with
  | list items ih =>
    have hitems : List.Forall₂ (fun v w => v.depth = w.depth) (items.map stored) items :=
      List.forall₂_map_left_iff.2 (List.forall₂_same.2 ih)
    rw [stored_list, depth, depth, depthItems_congr hitems]
  | table entries ih =>
    have hentries : List.Forall₂ (fun v w => v.depth = w.depth)
        ((Table.mapValues stored entries).map Prod.snd) (entries.map Prod.snd) := by
      unfold Table.mapValues
      rw [List.map_map]
      refine List.forall₂_map_left_iff.2 (List.forall₂_map_right_iff.2 (List.forall₂_same.2 ih))
    rw [stored_table, depth, depth, depthEntries_eq, depthEntries_eq, depthItems_congr hentries]
  | handle shown quoted stored ih =>
    cases stored with
    | ok v =>
      rw [Value.stored, depth]
      exact ih v rfl
    | error f => rfl
  | failed error => rfl
  | _ => rfl

end Provision.Value
