import Provision.Proofs.Text.Order
import Provision.Proofs.Text.Plain

/-!
# Texts that spell points

A text is **spelled** if it is the spelling of points (`IsSpelled`); every text that is read from a
document or a command line is. A spelled text says which points it spells (`points_ofPoints`), and
the numbers of its points tell it from every other one (`IsSpelled.eq_of_numbers`). So spelled texts
are ordered without ties (`IsSpelled.precedes_antisymm`), and there is one way to sort names
(`sorted_eq_of_perm`).

Of characters that may spell nothing this much is true: their points have no other characters
(`mem_of_char_mem_points`), and as many of every kind, marks aside (`countP_spelling`).
-/

namespace Provision.Text

/-- A point that a document can spell: a half has a number that no character has. -/
def Point.Proper : Point → Prop
  | .char _ => True
  | .half unit => 0xD800 ≤ unit ∧ unit ≤ 0xDFFF

/-- A text that spells points. -/
def IsSpelled (s : String) : Prop := ∃ ps : List Point, (∀ p ∈ ps, p.Proper) ∧ s = ofPoints ps

theorem IsPlain.isSpelled {s : String} (h : IsPlain s) : IsSpelled s := by
  obtain ⟨t, rfl⟩ := h
  refine ⟨t.toList.map .char, fun p hp => ?_, rfl⟩
  obtain ⟨c, -, rfl⟩ := List.mem_map.1 hp
  trivial

/-! ## The points of a spelled text -/

theorem toNat_standIn {unit : Nat} (h : 0xD800 ≤ unit ∧ unit ≤ 0xDFFF) :
    (standIn unit).toNat = unit + standInShift := by
  have hvalid : (unit + standInShift).isValidChar := by
    unfold Nat.isValidChar standInShift
    omega
  unfold standIn Char.ofNat
  rw [dif_pos hvalid]
  rfl

theorem half?_standIn {unit : Nat} (h : 0xD800 ≤ unit ∧ unit ≤ 0xDFFF) :
    half? (standIn unit) = some unit := by
  unfold half?
  rw [toNat_standIn h, if_pos (by omega), Nat.add_sub_cancel]

theorem standIn_ne_mark {unit : Nat} (h : 0xD800 ≤ unit ∧ unit ≤ 0xDFFF) :
    standIn unit ≠ mark := by
  intro heq
  have hnumber := toNat_standIn h
  rw [heq, show mark.toNat = 0x10FFFF from rfl, standInShift] at hnumber
  omega

theorem points_spelling_append {p : Point} (hp : p.Proper) (cs : List Char) :
    points (p.spelling ++ cs) = p :: points cs := by
  cases p with
  | char c =>
    by_cases hc : c = mark
    · subst hc
      exact points_mark_mark cs
    · rw [spelling_of_ne_mark hc]
      exact points_cons_of_ne_mark hc cs
  | half unit =>
    rw [show (Point.half unit).spelling = [mark, standIn unit] from rfl, List.cons_append,
      List.cons_append, List.nil_append, points]
    simp only [ne_eq, not_true, if_false, if_neg (standIn_ne_mark hp), half?_standIn hp]

/-- **Spelling loses nothing**, halves included. -/
theorem points_ofPoints {ps : List Point} (h : ∀ p ∈ ps, p.Proper) :
    points (ofPoints ps).toList = ps := by
  unfold ofPoints
  rw [String.toList_ofList]
  induction ps with
  | nil => rfl
  | cons p ps ih =>
    obtain ⟨hp, hps⟩ := List.forall_mem_cons.1 h
    rw [List.flatMap_cons, points_spelling_append hp, ih hps]

theorem IsSpelled.ofPoints_points {s : String} (h : IsSpelled s) :
    ofPoints (points s.toList) = s := by
  obtain ⟨ps, hps, rfl⟩ := h
  rw [points_ofPoints hps]

theorem ofPoints_append (ps qs : List Point) :
    ofPoints (ps ++ qs) = ofPoints ps ++ ofPoints qs := by
  unfold ofPoints
  rw [List.flatMap_append, String.ofList_append]

/-! ## Characters and their points -/

theorem standIn_of_half? {c : Char} {unit : Nat} (h : half? c = some unit) : standIn unit = c := by
  unfold half? at h
  split at h
  · rename_i hrange
    have hunit : unit + standInShift = c.toNat := by
      have := Option.some.inj h
      omega
    unfold standIn
    rw [hunit, Char.ofNat_toNat]
  · cases h

/-- A character that is a point was there before. -/
theorem mem_of_char_mem_points {cs : List Char} {c : Char} (h : .char c ∈ points cs) : c ∈ cs := by
  fun_induction points cs with
  | case1 => cases h
  | case2 d =>
    cases List.mem_singleton.1 h
    exact List.mem_singleton_self c
  | case3 d e cs hd ih =>
    rcases List.mem_cons.1 h with heq | h
    · cases heq
      exact List.mem_cons_self
    · exact List.mem_cons_of_mem _ (ih h)
  | case4 d cs hd ih =>
    rcases List.mem_cons.1 h with heq | h
    · cases heq
      exact List.mem_cons_of_mem _ List.mem_cons_self
    · exact List.mem_cons_of_mem _ (List.mem_cons_of_mem _ (ih h))
  | case5 d e cs hd he unit hunit ih =>
    rcases List.mem_cons.1 h with heq | h
    · cases heq
    · exact List.mem_cons_of_mem _ (List.mem_cons_of_mem _ (ih h))
  | case6 d e cs hd he hnone ih =>
    rcases List.mem_cons.1 h with heq | h
    · cases heq
      exact List.mem_cons_self
    · exact List.mem_cons_of_mem _ (ih h)

/-- Spelling the points of characters adds marks only, where one stands alone. -/
theorem countP_spelling {P : Char → Bool} (h : P mark = false) (cs : List Char) :
    ((points cs).flatMap Point.spelling).countP P = cs.countP P := by
  have hchar : ∀ c ds, ((Point.char c).spelling ++ ds).countP P = (c :: ds).countP P := by
    intro c ds
    by_cases hc : c = mark
    · subst hc
      show (mark :: mark :: ds).countP P = _
      rw [List.countP_cons_of_neg (by rw [h]; exact Bool.false_ne_true)]
    · rw [spelling_of_ne_mark hc]
      rfl
  fun_induction points cs with
  | case1 => rfl
  | case2 c => exact hchar c []
  | case3 c d cs hc ih => rw [List.flatMap_cons, hchar, List.countP_cons, ih, ← List.countP_cons]
  | case4 c cs hc ih =>
    rw [not_not.1 hc, List.flatMap_cons, hchar, List.countP_cons, ih, List.countP_cons_of_neg
      (by rw [h]; exact Bool.false_ne_true), ← List.countP_cons]
  | case5 c d cs hc hd unit hunit ih =>
    rw [not_not.1 hc, List.flatMap_cons, Point.spelling, standIn_of_half? hunit]
    show (mark :: d :: (points cs).flatMap Point.spelling).countP P = _
    simp only [List.countP_cons, ih]
  | case6 c d cs hc hd hnone ih =>
    rw [List.flatMap_cons, hchar, List.countP_cons, ih, ← List.countP_cons]

/-! ## The order of spelled texts -/

/-- The number of a half is that of no character. -/
theorem Point.eq_of_number {p q : Point} (hp : p.Proper) (hq : q.Proper)
    (h : p.number = q.number) : p = q := by
  have hchar : ∀ (c : Char) (unit : Nat), 0xD800 ≤ unit ∧ unit ≤ 0xDFFF → c.toNat ≠ unit := by
    intro c unit hunit heq
    have hvalid : c.toNat.isValidChar := c.valid
    unfold Nat.isValidChar at hvalid
    omega
  cases p with
  | char c =>
    cases q with
    | char d => exact congrArg Point.char (Char.toNat_inj.1 h)
    | half unit => exact absurd h (hchar c unit hq)
  | half unit =>
    cases q with
    | char d => exact absurd h.symm (hchar d unit hp)
    | half other => exact congrArg Point.half h

theorem eq_of_map_number {ps qs : List Point} (hps : ∀ p ∈ ps, p.Proper)
    (hqs : ∀ q ∈ qs, q.Proper) (h : ps.map Point.number = qs.map Point.number) : ps = qs := by
  induction ps generalizing qs with
  | nil => exact (List.map_eq_nil_iff.1 h.symm).symm
  | cons p ps ih =>
    cases qs with
    | nil => cases h
    | cons q qs =>
      obtain ⟨hhead, htail⟩ := List.cons.inj h
      obtain ⟨hp, hps⟩ := List.forall_mem_cons.1 hps
      obtain ⟨hq, hqs⟩ := List.forall_mem_cons.1 hqs
      rw [Point.eq_of_number hp hq hhead, ih hps hqs htail]

/-- The numbers of its points tell a spelled text from every other one. -/
theorem IsSpelled.eq_of_numbers {s t : String} (hs : IsSpelled s) (ht : IsSpelled t)
    (h : numbers s = numbers t) : s = t := by
  obtain ⟨ps, hps, rfl⟩ := hs
  obtain ⟨qs, hqs, rfl⟩ := ht
  unfold numbers at h
  rw [points_ofPoints hps, points_ofPoints hqs] at h
  rw [eq_of_map_number hps hqs h]

theorem inOrder_antisymm {ms ns : List Nat} (h : inOrder ms ns = true)
    (h' : inOrder ns ms = true) : ms = ns := by
  induction ms generalizing ns with
  | nil =>
    cases ns with
    | nil => rfl
    | cons => cases h'
  | cons m ms ih =>
    cases ns with
    | nil => cases h
    | cons n ns =>
      simp only [inOrder, Bool.or_eq_true, Bool.and_eq_true, decide_eq_true_eq] at h h'
      have hmn : m = n := by omega
      have hrest : inOrder ms ns = true := (h.resolve_left (by omega)).2
      have hrest' : inOrder ns ms = true := (h'.resolve_left (by omega)).2
      rw [hmn, ih hrest hrest']

/-- **No two spelled texts tie.** -/
theorem IsSpelled.precedes_antisymm {s t : String} (hs : IsSpelled s) (ht : IsSpelled t)
    (h : precedes s t = true) (h' : precedes t s = true) : s = t :=
  hs.eq_of_numbers ht (inOrder_antisymm h h')

/-- A list of names that is in order is the sorted one. -/
theorem eq_sorted {names inOrder : List String} (h : ∀ name ∈ names, IsSpelled name)
    (hperm : inOrder.Perm names) (horder : inOrder.Pairwise fun a b => precedes a b = true) :
    inOrder = sorted names := by
  have hsame : inOrder.Perm (sorted names) := hperm.trans (sorted_perm names).symm
  refine hsame.eq_of_pairwise (fun a b ha hb => ?_) horder (sorted_pairwise names)
  have ha' : IsSpelled a := h a (hperm.mem_iff.1 ha)
  have hb' : IsSpelled b := h b ((sorted_perm names).mem_iff.1 hb)
  exact ha'.precedes_antisymm hb'

/-- **There is one way to sort names**, however they are listed and how often each of them is. -/
theorem sorted_eq_of_perm {names names' : List String} (h : ∀ name ∈ names, IsSpelled name)
    (hperm : names'.Perm names) : sorted names' = sorted names :=
  eq_sorted h ((sorted_perm names').trans hperm) (sorted_pairwise names')

end Provision.Text
