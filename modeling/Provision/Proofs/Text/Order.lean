import Mathlib.Data.List.Induction
import Provision.Text.Names

/-!
# The order of texts

Texts are compared point by point, the first difference counts, and a text comes before its
extensions. The order is total and transitive, so `Text.sorted` puts every list of names in order
(`sorted_pairwise`) and loses none (`sorted_perm`).

`Text.distinct` lists the same names (`mem_distinct`), each of them once (`nodup_distinct`).
-/

namespace Provision.Text

theorem inOrder_total (ms ns : List Nat) : inOrder ms ns = true ∨ inOrder ns ms = true := by
  induction ms generalizing ns with
  | nil => exact Or.inl rfl
  | cons m ms ih =>
    cases ns with
    | nil => exact Or.inr rfl
    | cons n ns =>
      simp only [inOrder, Bool.or_eq_true, Bool.and_eq_true, decide_eq_true_eq]
      rcases Nat.lt_trichotomy m n with h | h | h
      · exact Or.inl (Or.inl h)
      · rcases ih ns with hr | hr
        · exact Or.inl (Or.inr ⟨h, hr⟩)
        · exact Or.inr (Or.inr ⟨h.symm, hr⟩)
      · exact Or.inr (Or.inl h)

theorem inOrder_trans {ls ms ns : List Nat} (h : inOrder ls ms = true) (h' : inOrder ms ns = true) :
    inOrder ls ns = true := by
  induction ls generalizing ms ns with
  | nil => rfl
  | cons l ls ih =>
    cases ms with
    | nil => cases h
    | cons m ms =>
      cases ns with
      | nil => cases h'
      | cons n ns =>
        simp only [inOrder, Bool.or_eq_true, Bool.and_eq_true, decide_eq_true_eq] at h h' ⊢
        rcases h with hlt | ⟨rfl, hrest⟩
        · rcases h' with hlt' | ⟨rfl, -⟩
          · exact Or.inl (Nat.lt_trans hlt hlt')
          · exact Or.inl hlt
        · rcases h' with hlt' | ⟨rfl, hrest'⟩
          · exact Or.inl hlt'
          · exact Or.inr ⟨rfl, ih hrest hrest'⟩

theorem sorted_perm (names : List String) : (sorted names).Perm names :=
  List.mergeSort_perm names precedes

/-- **Sorted names are in order.** -/
theorem sorted_pairwise (names : List String) :
    (sorted names).Pairwise fun a b => precedes a b = true := by
  apply List.pairwise_mergeSort
  · intro a b c hab hbc
    exact inOrder_trans hab hbc
  · intro a b
    rw [Bool.or_eq_true]
    exact inOrder_total _ _

theorem distinct_append (names : List String) (name : String) :
    distinct (names ++ [name]) =
      if (distinct names).contains name then distinct names else distinct names ++ [name] := by
  unfold distinct
  rw [List.foldl_append]
  rfl

theorem mem_distinct {names : List String} {name : String} :
    name ∈ distinct names ↔ name ∈ names := by
  induction names using List.reverseRecOn with
  | nil => exact Iff.rfl
  | append_singleton names last ih =>
    rw [distinct_append, List.mem_append, List.mem_singleton]
    split
    · rename_i hseen
      rw [ih, or_iff_left_of_imp]
      rintro rfl
      exact ih.1 (List.contains_iff_mem.1 hseen)
    · rw [List.mem_append, List.mem_singleton, ih]

theorem nodup_distinct (names : List String) : (distinct names).Nodup := by
  induction names using List.reverseRecOn with
  | nil => exact List.nodup_nil
  | append_singleton names last ih =>
    rw [distinct_append]
    split
    · exact ih
    · rename_i hnew
      refine List.nodup_append.2 ⟨ih, List.pairwise_singleton _ _, ?_⟩
      rintro name hname _ hlast rfl
      rw [List.mem_singleton.1 hlast, ← List.contains_iff_mem] at hname
      exact hnew hname

end Provision.Text
