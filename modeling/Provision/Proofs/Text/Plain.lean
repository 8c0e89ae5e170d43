import Provision.Text.Names

/-!
# Plain texts

A text is **plain** if it spells characters only, so that no half of a surrogate pair stands alone
in it. Spelling loses nothing (`points_spell_append`): the points of a spelling are the characters
that were spelled. Plain texts are closed under all that messages are made by: joining, listing and
cutting.
-/

namespace Provision.Text

/-- The characters that spell some characters: the mark is spelled twice, every other one once. -/
def spell (cs : List Char) : List Char := cs.flatMap fun c => (Point.char c).spelling

/-- A text that spells characters only. -/
def IsPlain (s : String) : Prop := ∃ t : String, s = ofPlain t

theorem toList_ofPlain (t : String) : (ofPlain t).toList = spell t.toList := by
  unfold ofPlain ofPoints spell
  rw [String.toList_ofList, List.flatMap_map]

theorem isPlain_iff {s : String} : IsPlain s ↔ ∃ cs, s.toList = spell cs := by
  constructor
  · rintro ⟨t, rfl⟩
    exact ⟨t.toList, toList_ofPlain t⟩
  · rintro ⟨cs, h⟩
    refine ⟨String.ofList cs, String.toList_inj.1 ?_⟩
    rw [h, toList_ofPlain, String.toList_ofList]

theorem spell_cons (c : Char) (cs : List Char) :
    spell (c :: cs) = (Point.char c).spelling ++ spell cs := rfl

theorem spell_append (cs ds : List Char) : spell (cs ++ ds) = spell cs ++ spell ds :=
  List.flatMap_append

theorem spelling_of_ne_mark {c : Char} (h : c ≠ mark) : (Point.char c).spelling = [c] :=
  if_neg h

theorem spell_of_mark_free {cs : List Char} (h : mark ∉ cs) : spell cs = cs := by
  induction cs with
  | nil => rfl
  | cons c cs ih =>
    have hc : c ≠ mark := fun he => h (by simp [he])
    rw [spell_cons, spelling_of_ne_mark hc, ih fun hm => h (List.mem_cons_of_mem c hm)]
    rfl

/-! ## Points of a plain text -/

theorem points_cons_of_ne_mark {c : Char} (h : c ≠ mark) (cs : List Char) :
    points (c :: cs) = .char c :: points cs := by
  cases cs with
  | nil => rfl
  | cons d cs =>
    rw [points]
    exact if_pos h

theorem points_mark_mark (cs : List Char) :
    points (mark :: mark :: cs) = .char mark :: points cs := by
  rw [points]
  simp

/-- **Spelling loses nothing.** -/
theorem points_spell_append (cs rest : List Char) :
    points (spell cs ++ rest) = cs.map .char ++ points rest := by
  induction cs with
  | nil => rfl
  | cons c cs ih =>
    rw [spell_cons, List.append_assoc]
    by_cases hc : c = mark
    · subst hc
      simp only [Point.spelling, if_pos, List.cons_append, List.nil_append, points_mark_mark, ih,
        List.map_cons]
    · rw [spelling_of_ne_mark hc, List.singleton_append, points_cons_of_ne_mark hc, ih]
      rfl

theorem points_spell (cs : List Char) : points (spell cs) = cs.map .char := by
  have h := points_spell_append cs []
  rwa [List.append_nil, show points [] = [] from rfl, List.append_nil] at h

theorem IsPlain.hasHalf {s : String} (h : IsPlain s) : hasHalf s = false := by
  obtain ⟨cs, hcs⟩ := isPlain_iff.1 h
  unfold Text.hasHalf
  rw [hcs, points_spell, List.any_map]
  exact List.any_eq_false.2 fun c _ => by simp [Point.isChar]

/-! ## Making plain texts -/

theorem isPlain_of_mark_free {s : String} (h : mark ∉ s.toList) : IsPlain s :=
  isPlain_iff.2 ⟨s.toList, (spell_of_mark_free h).symm⟩

theorem IsPlain.append {s t : String} (hs : IsPlain s) (ht : IsPlain t) : IsPlain (s ++ t) := by
  obtain ⟨cs, hcs⟩ := isPlain_iff.1 hs
  obtain ⟨ds, hds⟩ := isPlain_iff.1 ht
  exact isPlain_iff.2 ⟨cs ++ ds, by rw [String.toList_append, hcs, hds, spell_append]⟩

theorem IsPlain.intercalate {sep : String} (hsep : IsPlain sep) {parts : List String}
    (h : ∀ part ∈ parts, IsPlain part) : IsPlain (sep.intercalate parts) := by
  induction parts with
  | nil => exact ⟨"", rfl⟩
  | cons part parts ih =>
    have hpart := h part List.mem_cons_self
    have hrest := ih fun p hp => h p (List.mem_cons_of_mem part hp)
    cases parts with
    | nil => rwa [String.intercalate_singleton]
    | cons next parts =>
      rw [String.intercalate_cons_cons]
      exact (hpart.append hsep).append hrest

/-- Cutting at a character other than the mark cuts between two characters that are spelled. -/
theorem cutChars_spell {sep : Char} (hsep : sep ≠ mark) (cs : List Char)
    {before after : List Char} (h : cutChars sep (spell cs) = some (before, after)) :
    ∃ ds es, before = spell ds ∧ after = spell es := by
  induction cs generalizing before with
  | nil => cases h
  | cons c cs ih =>
    -- a character passed over stays in front of what is cut further on
    have hpass : ∀ front : List Char,
        (cutChars sep (spell cs)).map (fun p => (front ++ p.1, p.2)) = some (before, after) →
        front = (Point.char c).spelling → ∃ ds es, before = spell ds ∧ after = spell es := by
      rintro _ hcut rfl
      obtain ⟨⟨b, a⟩, hba, heq⟩ := Option.map_eq_some_iff.1 hcut
      cases heq
      obtain ⟨ds, es, rfl, rfl⟩ := ih hba
      exact ⟨c :: ds, es, rfl, rfl⟩
    rw [spell_cons] at h
    by_cases hc : c = mark
    · subst hc
      have hms : mark ≠ sep := fun he => hsep he.symm
      simp only [Point.spelling, if_pos, List.cons_append, List.nil_append, cutChars, if_neg hms,
        Option.map_map] at h
      exact hpass [mark, mark] h rfl
    · rw [spelling_of_ne_mark hc, List.singleton_append, cutChars] at h
      by_cases hs : c = sep
      · rw [if_pos hs] at h
        cases h
        exact ⟨[], cs, rfl, rfl⟩
      · rw [if_neg hs] at h
        exact hpass [c] h (spelling_of_ne_mark hc).symm

theorem IsPlain.cut {sep : Char} (hsep : sep ≠ mark) {s before after : String} (h : IsPlain s)
    (hcut : cut sep s = some (before, after)) : IsPlain before ∧ IsPlain after := by
  obtain ⟨cs, hcs⟩ := isPlain_iff.1 h
  unfold Text.cut at hcut
  rw [hcs] at hcut
  obtain ⟨⟨b, a⟩, hba, heq⟩ := Option.map_eq_some_iff.1 hcut
  cases heq
  obtain ⟨ds, es, rfl, rfl⟩ := cutChars_spell hsep cs hba
  exact ⟨isPlain_iff.2 ⟨ds, String.toList_ofList⟩, isPlain_iff.2 ⟨es, String.toList_ofList⟩⟩

end Provision.Text
