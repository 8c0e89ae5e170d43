import Mathlib.Data.List.Forall2
import Provision.Proofs.Table
import Provision.Shape.Basic

/-!
# What a checked record says about its value

A check without issues has a result for each of its parts. The lemmas below take a result apart,
one for each way in which checks are put together: `ok_of_seq` for fields one after the other,
`ok_of_optionalField` for a field, `entries_eq_ok_iff` and `items_eq_ok_iff` for tables and lists.
-/

namespace Provision.Shape

variable {α β : Type}

namespace Checked

theorem ok_of_seq {f : Checked (α → β)} {c : Checked α} {b : β} (h : f <*> c = .ok b) :
    ∃ g a, f = .ok g ∧ c = .ok a ∧ g a = b := by
  cases f with
  | bad issues =>
    cases c with
    | bad more => cases h
    | ok a => cases h
  | ok g =>
    cases c with
    | bad issues => cases h
    | ok a =>
      cases h
      exact ⟨g, a, rfl, rfl, rfl⟩

theorem ok_of_map {f : α → β} {c : Checked α} {b : β} (h : f <$> c = .ok b) :
    ∃ a, c = .ok a ∧ f a = b := by
  obtain ⟨g, a, hg, hc, hb⟩ := ok_of_seq (f := Checked.ok f) h
  cases hg
  exact ⟨a, hc, hb⟩

theorem ok_of_andThen {c : Checked α} {f : α → Checked β} {b : β} (h : c.andThen f = .ok b) :
    ∃ a, c = .ok a ∧ f a = .ok b := by
  cases c with
  | bad issues => cases h
  | ok a => exact ⟨a, rfl, h⟩

theorem within_eq_ok_iff {step : Step} {c : Checked α} {a : α} :
    c.within step = .ok a ↔ c = .ok a := by
  cases c with
  | bad issues => exact ⟨nofun, nofun⟩
  | ok b => exact Iff.rfl

theorem ok_of_settle {name : String} {c : Checked α} {a : α} (h : c.settle name = .ok a) :
    c = .ok a := by
  cases c with
  | bad issues => cases h
  | ok b =>
    cases h
    rfl

end Checked

open Checked

theorem ok_of_record {name : String} {v : Value} {fields : Table Value}
    (h : record name v = .ok fields) : v = .table fields := by
  unfold record at h
  split at h
  · cases h
    rfl
  · cases h

theorem ok_of_optionalField {fields : Table Value} {name : String} {default a : α}
    {check : Value → Checked α} (h : optionalField fields name default check = .ok a) :
    (fields.get? name = none ∧ a = default) ∨ ∃ v, fields.get? name = some v ∧ check v = .ok a := by
  unfold optionalField at h
  split at h
  · rename_i hnone
    cases h
    exact Or.inl ⟨hnone, rfl⟩
  · rename_i v hsome
    exact Or.inr ⟨v, hsome, within_eq_ok_iff.1 h⟩

theorem ok_of_requiredField {fields : Table Value} {name : String} {a : α}
    {check : Value → Checked α} (h : requiredField fields name check = .ok a) :
    ∃ v, fields.get? name = some v ∧ check v = .ok a := by
  unfold requiredField at h
  split at h
  · cases h
  · rename_i v hsome
    exact ⟨v, hsome, within_eq_ok_iff.1 h⟩

/-- A table is checked entry by entry. -/
theorem entries_eq_ok_iff {check : Value → Checked α} {es : List (String × Value)} {t : Table α} :
    entries check es = .ok t ↔
      List.Forall₂ (fun e a => e.1 = a.1 ∧ check e.2 = .ok a.2) es t := by
  induction es generalizing t with
  | nil =>
    rw [entries, List.forall₂_nil_left_iff]
    exact ⟨fun h => by cases h; rfl, fun h => by rw [h]⟩
  | cons e es ih =>
    obtain ⟨k, v⟩ := e
    rw [entries]
    constructor
    · intro h
      obtain ⟨f, rest, hf, hrest, rfl⟩ := ok_of_seq h
      obtain ⟨a, ha, rfl⟩ := Checked.ok_of_map hf
      exact .cons ⟨rfl, within_eq_ok_iff.1 ha⟩ (ih.1 hrest)
    · intro h
      cases h with
      | @cons _ a _ rest ha hrest =>
        obtain ⟨k', a⟩ := a
        obtain ⟨rfl, ha⟩ := ha
        rw [ih.2 hrest, within_eq_ok_iff.2 ha]
        rfl

theorem itemsFrom_eq_ok_iff {check : Value → Checked α} {i : ℕ} {vs : List Value} {as : List α} :
    itemsFrom check i vs = .ok as ↔ List.Forall₂ (fun v a => check v = .ok a) vs as := by
  induction vs generalizing i as with
  | nil =>
    rw [itemsFrom, List.forall₂_nil_left_iff]
    exact ⟨fun h => by cases h; rfl, fun h => by rw [h]⟩
  | cons v vs ih =>
    rw [itemsFrom]
    constructor
    · intro h
      obtain ⟨f, rest, hf, hrest, rfl⟩ := ok_of_seq h
      obtain ⟨a, ha, rfl⟩ := Checked.ok_of_map hf
      exact .cons (within_eq_ok_iff.1 ha) (ih.1 hrest)
    · intro h
      cases h with
      | cons ha hrest =>
        rw [ih.2 hrest, within_eq_ok_iff.2 ha]
        rfl

/-- A list is checked item by item. -/
theorem items_eq_ok_iff {check : Value → Checked α} {vs : List Value} {as : List α} :
    items check (.list vs) = .ok as ↔ List.Forall₂ (fun v a => check v = .ok a) vs as :=
  itemsFrom_eq_ok_iff

theorem ok_of_items {check : Value → Checked α} {v : Value} {as : List α}
    (h : items check v = .ok as) :
    ∃ vs, v = .list vs ∧ List.Forall₂ (fun v a => check v = .ok a) vs as := by
  unfold items at h
  split at h
  · exact ⟨_, rfl, itemsFrom_eq_ok_iff.1 h⟩
  · cases h

theorem ok_of_table {check : Value → Checked α} {v : Value} {t : Table α}
    (h : table check v = .ok t) : ∃ es, v = .table es ∧ entries check es = .ok t := by
  unfold table at h
  split at h
  · exact ⟨_, rfl, h⟩
  · cases h

/-- A table of values of any kind is left as it is. -/
theorem entries_any (es : List (String × Value)) : entries any es = .ok es :=
  entries_eq_ok_iff.2 (List.forall₂_same.2 fun _ _ => ⟨rfl, rfl⟩)

end Provision.Shape
