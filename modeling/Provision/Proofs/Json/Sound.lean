import Provision.Proofs.Except
import Provision.Proofs.Json.RoundTrip

/-!
# What is read from a document

Whatever text is read, the value it denotes has no key twice, no integer with more digits than may
be read, and neither a failed mark nor a handle in it (`denotable_of_read`). The proof follows the
recursion of the three readers. Since every such value can be written, too, these are exactly the
values that texts denote (`denotable_iff_read`).
-/

namespace Provision.Json

open Value (Denotable)

/-! ## Numbers -/

theorem isDigit_toNat {c : Char} (h : c.isDigit = true) : c.toNat - '0'.toNat < 10 := by
  unfold Char.isDigit at h
  simp only [Bool.and_eq_true, decide_eq_true_eq] at h
  have h₁ : c.val.toNat ≤ 57 := h.2
  have h₂ : c.toNat = c.val.toNat := rfl
  have h₃ : '0'.toNat = 48 := rfl
  omega

/-- A number has no more digits than were read. -/
theorem ofDigits_lt {ds : List Char} (h : ∀ c ∈ ds, c.isDigit = true) :
    ofDigits ds < 10 ^ ds.length := by
  induction ds using List.reverseRecOn with
  | nil => decide
  | append_singleton ds c ih =>
    have hds := ih fun d hd => h d (List.mem_append_left _ hd)
    have hc := isDigit_toNat (h c (by simp))
    have hstep : ofDigits (ds ++ [c]) = ofDigits ds * 10 + (c.toNat - '0'.toNat) := by
      unfold ofDigits
      rw [List.foldl_append]
      rfl
    rw [hstep, List.length_append, List.length_singleton, Nat.pow_succ]
    omega

theorem intDigits?_digits {s ds rest : List Char} (h : intDigits? s = some (ds, rest)) :
    ds ≠ [] ∧ ∀ c ∈ ds, c.isDigit = true := by
  unfold intDigits? at h
  split at h
  · cases h
  · rename_i c cs
    split at h
    · cases h
      exact ⟨by decide, isDigit_zeros 1⟩
    split at h
    · rename_i hc
      cases h
      refine ⟨by simp, fun d hd => ?_⟩
      rcases List.mem_cons.1 hd with rfl | hd
      · exact hc
      · exact List.all_eq_true.1 List.all_takeWhile d hd
    · cases h

theorem denotable_int {n : ℤ} (h : (Nat.toDigits 10 n.natAbs).length ≤ Text.digitLimit) :
    Denotable (.int n) :=
  Value.denotable_leaf trivial trivial trivial h

theorem denotable_double (x : Double) : Denotable (.double x) :=
  Value.denotable_leaf trivial trivial trivial trivial

theorem denotable_of_readMagnitude {neg : Bool} {whole s rest : List Char} {v : Value}
    (h : readMagnitude neg whole s = .ok (v, rest)) : Denotable v := by
  unfold readMagnitude at h
  split at h
  · cases h
  · rename_i ds afterDigits hds
    obtain ⟨hne, hdigits⟩ := intDigits?_digits hds
    have hpos := List.length_pos_iff.2 hne
    simp only at h
    split at h
    · split at h
      · cases h
      · rename_i hlimit
        cases h
        have hlength : (Nat.toDigits 10 (ofDigits ds)).length ≤ Text.digitLimit := by
          refine Nat.le_trans ?_ (Nat.not_lt.1 hlimit)
          exact (Nat.length_toDigits_le_iff (by decide) hpos).2 (ofDigits_lt hdigits)
        refine denotable_int ?_
        cases neg
        · exact hlength
        · rw [if_pos rfl, Int.natAbs_neg]
          exact hlength
    · cases h
      exact denotable_double _

theorem denotable_of_readNumber {s rest : List Char} {v : Value}
    (h : readNumber s = .ok (v, rest)) : Denotable v := by
  unfold readNumber at h
  split at h
  · exact denotable_of_readMagnitude h
  · exact denotable_of_readMagnitude h

theorem denotable_of_readWord? {s rest : List Char} {v : Value}
    (h : readWord? s = some (v, rest)) : Denotable v := by
  obtain ⟨⟨word, w⟩, hmem, hfound⟩ := List.exists_of_findSome?_eq_some h
  obtain ⟨_, _, heq⟩ := Option.map_eq_some_iff.1 hfound
  cases heq
  have hleaf : ∀ e ∈ words, Denotable e.2 := by
    unfold words
    simp only [List.forall_mem_cons]
    refine ⟨?_, ?_, ?_, ?_, ?_, ?_, nofun⟩
    all_goals exact Value.denotable_leaf trivial trivial trivial trivial
  exact hleaf _ hmem

/-! ## Values -/

/-- **What is read is denotable**, for the three readers at once: each calls the others with less
fuel. -/
theorem denotable_of_readers (fuel : ℕ) :
    (∀ depth s v rest, readValue fuel depth s = .ok (v, rest) → Denotable v) ∧
    (∀ depth s items rest, readItems fuel depth s = .ok (items, rest) → ∀ v ∈ items, Denotable v) ∧
    ∀ depth s entries rest, readEntries fuel depth s = .ok (entries, rest) →
      ∀ e ∈ entries, Denotable e.2 := by
  induction fuel with
  | zero =>
    refine ⟨fun depth s v rest h => ?_, fun depth s items rest h => ?_,
      fun depth s entries rest h => ?_⟩
    · rw [readValue] at h
      cases h
    · rw [readItems] at h
      cases h
    · rw [readEntries] at h
      cases h
  | succ fuel ih =>
    obtain ⟨ihValue, ihItems, ihEntries⟩ := ih
    refine ⟨fun depth s v rest h => ?_, fun depth s items rest h => ?_,
      fun depth s entries rest h => ?_⟩
    · unfold readValue at h
      split at h
      · obtain ⟨⟨text, afterText⟩, -, h⟩ := ok_of_bind h
        cases h
        exact Value.denotable_leaf trivial trivial trivial trivial
      · split at h
        · cases h
        split at h
        · cases h
          exact Value.denotable_list.2 (List.forall_mem_nil _)
        · obtain ⟨⟨items, afterItems⟩, hitems, h⟩ := ok_of_bind h
          cases h
          exact Value.denotable_list.2 (ihItems _ _ _ _ hitems)
      · split at h
        · cases h
        split at h
        · cases h
          exact Value.denotable_table.2 ⟨List.nodup_nil, List.forall_mem_nil _⟩
        · obtain ⟨⟨entries, afterEntries⟩, hentries, h⟩ := ok_of_bind h
          cases h
          -- a key that was given twice is kept once
          refine Value.denotable_table.2 ⟨Table.distinct_ofEntries entries, fun e he => ?_⟩
          exact ihEntries _ _ _ _ hentries e (Table.mem_of_mem_ofEntries he)
      · split at h
        · rename_i found hfound
          cases h
          exact denotable_of_readWord? hfound
        · exact denotable_of_readNumber h
    · rw [readItems] at h
      obtain ⟨⟨item, afterItem⟩, hitem, h⟩ := ok_of_bind h
      have hdenotable := ihValue _ _ _ _ hitem
      simp only at h
      split at h
      · cases h
        exact List.forall_mem_singleton.2 hdenotable
      · obtain ⟨⟨more, afterMore⟩, hmore, h⟩ := ok_of_bind h
        cases h
        exact List.forall_mem_cons.2 ⟨hdenotable, ihItems _ _ _ _ hmore⟩
      · cases h
    · unfold readEntries at h
      split at h
      · obtain ⟨⟨key, afterKey⟩, -, h⟩ := ok_of_bind h
        simp only at h
        split at h
        · obtain ⟨⟨value, afterValue⟩, hvalue, h⟩ := ok_of_bind h
          have hdenotable := ihValue _ _ _ _ hvalue
          simp only at h
          split at h
          · cases h
            exact List.forall_mem_singleton.2 hdenotable
          · obtain ⟨⟨more, afterMore⟩, hmore, h⟩ := ok_of_bind h
            cases h
            exact List.forall_mem_cons.2 ⟨hdenotable, ihEntries _ _ _ _ hmore⟩
          · cases h
        · cases h
      · cases h

theorem denotable_of_readAll {s : List Char} {v : Value} (h : readAll s = .ok v) : Denotable v := by
  unfold readAll at h
  split at h
  · cases h
  · obtain ⟨⟨value, rest⟩, hvalue, h⟩ := ok_of_bind h
    simp only at h
    split at h
    · cases h
      exact (denotable_of_readers _).1 _ _ _ _ hvalue
    · cases h

/-- **What a text denotes** is a value that a document can denote. -/
theorem denotable_of_read {text : String} {v : Value} (h : read text = .ok v) : Denotable v := by
  unfold read at h
  exact denotable_of_readAll (ok_of_mapError h)

/-- **The values that texts denote**, among the plain ones that are not nested too deeply. -/
theorem denotable_iff_read {v : Value} (hplain : v.Throughout Value.Plain)
    (hdepth : v.depth ≤ Value.depthLimit) : Denotable v ↔ ∃ text, read text = .ok v := by
  constructor
  · intro h
    obtain ⟨text, -, hread⟩ := read_write h.formed h.short hplain hdepth
    rw [Value.stored_of_data h.data] at hread
    exact ⟨text, hread⟩
  · rintro ⟨text, h⟩
    exact denotable_of_read h

end Provision.Json
