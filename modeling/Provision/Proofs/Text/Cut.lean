import Mathlib.Data.List.Basic
import Provision.Text.Names

/-!
# Cutting a text

A text is cut at its first separator: there is none before the cut, and the two parts with the
separator between them are the text again. So there is one way to cut a text, and two texts with
the same parts are the same (`cut_eq_some_iff`). A text without the separator is not cut
(`cut_eq_none_iff`).
-/

namespace Provision.Text

theorem cutChars_eq_some_iff {sep : Char} {cs before after : List Char} :
    cutChars sep cs = some (before, after) ↔ cs = before ++ sep :: after ∧ sep ∉ before := by
  induction cs generalizing before with
  | nil => simp [cutChars]
  | cons c cs ih =>
    rw [cutChars]
    by_cases hc : c = sep
    · -- the separator comes first, so nothing stands before the cut
      rw [if_pos hc, Option.some_inj, Prod.mk.injEq]
      constructor
      · rintro ⟨rfl, rfl⟩
        exact ⟨by rw [hc, List.nil_append], List.not_mem_nil⟩
      · rintro ⟨hcs, hsep⟩
        cases before with
        | nil => exact ⟨rfl, (List.cons.inj hcs).2⟩
        | cons b before =>
          obtain rfl : c = b := (List.cons.inj hcs).1
          exact absurd (hc ▸ List.mem_cons_self) hsep
    · rw [if_neg hc, Option.map_eq_some_iff]
      constructor
      · rintro ⟨⟨b, a⟩, hcut, heq⟩
        cases heq
        obtain ⟨rfl, hsep⟩ := ih.1 hcut
        exact ⟨rfl, List.not_mem_cons_of_ne_of_not_mem (Ne.symm hc) hsep⟩
      · rintro ⟨hcs, hsep⟩
        cases before with
        | nil => exact absurd (List.cons.inj hcs).1 hc
        | cons b before =>
          obtain ⟨rfl, rfl⟩ := List.cons.inj hcs
          exact ⟨(before, after), ih.2 ⟨rfl, fun h => hsep (List.mem_cons_of_mem _ h)⟩, rfl⟩

theorem cutChars_eq_none_iff {sep : Char} {cs : List Char} :
    cutChars sep cs = none ↔ sep ∉ cs := by
  induction cs with
  | nil => simp [cutChars]
  | cons c cs ih =>
    rw [cutChars, List.mem_cons, not_or]
    by_cases hc : c = sep
    · rw [if_pos hc]
      exact iff_of_false (by simp) fun h => h.1 hc.symm
    · rw [if_neg hc, Option.map_eq_none_iff, ih]
      exact (and_iff_right (Ne.symm hc)).symm

/-- **The parts of a text**, and how they make it up. -/
theorem cut_eq_some_iff {sep : Char} {s before after : String} :
    cut sep s = some (before, after) ↔
      s.toList = before.toList ++ sep :: after.toList ∧ sep ∉ before.toList := by
  unfold cut
  rw [← cutChars_eq_some_iff, Option.map_eq_some_iff]
  constructor
  · rintro ⟨⟨b, a⟩, hcut, heq⟩
    cases heq
    rw [String.toList_ofList, String.toList_ofList]
    exact hcut
  · intro hcut
    refine ⟨_, hcut, ?_⟩
    simp only [String.ofList_toList]

theorem cut_eq_none_iff {sep : Char} {s : String} : cut sep s = none ↔ sep ∉ s.toList := by
  unfold cut
  rw [Option.map_eq_none_iff, cutChars_eq_none_iff]

end Provision.Text
