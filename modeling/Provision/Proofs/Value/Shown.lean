import Provision.Proofs.Except
import Provision.Proofs.Value.Nested
import Provision.Value.Show

/-!
# Values that can be shown

A value that a document can denote has a text in every form, unless it is nested too deep
(`Value.Denotable.exists_quotedAt`, `Value.Denotable.exists_lineText`). An integer with more digits
than `Text.digitLimit` has none (`Value.integerText_longInteger`).
-/

namespace Provision.Value

variable {v : Value}

/-! ## Long integers -/

theorem short_ofNat_iff {n : ℕ} :
    Short (.int (Int.ofNat n)) ↔ (Nat.toDigits 10 n).length ≤ Text.digitLimit := Iff.rfl

theorem length_toDigits_pow {k : ℕ} (hk : 0 < k) : k < (Nat.toDigits 10 (Nat.pow 10 k)).length := by
  rw [← Nat.not_le, Nat.length_toDigits_le_iff (by decide) hk]
  exact Nat.lt_irrefl _

/-- The least integer with too many digits. -/
def longInteger : Int := Int.ofNat (Nat.pow 10 Text.digitLimit)

theorem longInteger_not_short : ¬ Short (.int longInteger) := by
  unfold longInteger
  rw [short_ofNat_iff, Nat.not_le]
  exact length_toDigits_pow (by decide)

theorem integerText_longInteger : integerText longInteger = .error .tooManyDigits :=
  if_neg longInteger_not_short

/-! ## Texts of values -/

theorem quotedItems_eq (level : ℕ) (items : List Value) :
    quotedItems level items = items.mapM (quotedAt level) := by
  induction items with
  | nil => rfl
  | cons v items ih => rw [quotedItems, ih, List.mapM_cons]

/-- An entry of a table in quoted form. -/
def quotedEntry (level : ℕ) (e : String × Value) : Except TextFault String :=
  (Text.quoted e.1 ++ ": " ++ ·) <$> quotedAt level e.2

theorem quotedEntries_eq (level : ℕ) (entries : List (String × Value)) :
    quotedEntries level entries = entries.mapM (quotedEntry level) := by
  induction entries with
  | nil => rfl
  | cons e entries ih =>
    obtain ⟨k, v⟩ := e
    rw [quotedEntries, ih, List.mapM_cons, quotedEntry]
    cases quotedAt level v <;> rfl

theorem lineItems_eq (level : ℕ) (items : List Value) :
    lineItems level items = items.mapM (lineAt level) := by
  induction items with
  | nil => rfl
  | cons v items ih => rw [lineItems, ih, List.mapM_cons]

/-- **A value that a document can denote has a quoted form**, if it is not nested too deep. -/
theorem Denotable.exists_quotedAt (h : v.Denotable) {level : ℕ}
    (hlevel : level + v.depth ≤ depthLimit) : ∃ text, quotedAt level v = .ok text := by
  induction v using nestedInduction generalizing level with
  | null => exact ⟨_, rfl⟩
  | bool b => exact ⟨_, rfl⟩
  | int n => exact ⟨_, if_pos (h.short _ (.self _))⟩
  | double x => exact ⟨_, rfl⟩
  | text s => exact ⟨_, rfl⟩
  | list items ih =>
    have hitem : ∀ v ∈ items, ∃ text, quotedAt (level + 1) v = .ok text := by
      intro v hv
      have hlt := depth_item hv
      exact ih v hv (denotable_list.1 h v hv) (by omega)
    obtain ⟨texts, htexts⟩ := exists_mapM_ok hitem
    rw [depth] at hlevel
    rw [quotedAt, if_pos (by omega), quotedItems_eq, htexts]
    exact ⟨_, rfl⟩
  | table entries ih =>
    have hentry : ∀ e ∈ entries, ∃ text, quotedEntry (level + 1) e = .ok text := by
      intro e he
      have hlt := depth_entry he
      obtain ⟨text, htext⟩ := @ih e he ((denotable_table.1 h).2 e he) (level + 1) (by omega)
      rw [quotedEntry, htext]
      exact ⟨_, rfl⟩
    obtain ⟨texts, htexts⟩ := exists_mapM_ok hentry
    rw [depth] at hlevel
    rw [quotedAt, if_pos (by omega), quotedEntries_eq, htexts]
    exact ⟨_, rfl⟩
  | failed error => exact absurd (h.data _ (.self _)) id
  | handle shown quoted stored _ => exact absurd (h.data _ (.self _)) id

theorem Denotable.exists_plainAt (h : v.Denotable) {level : ℕ}
    (hlevel : level + v.depth ≤ depthLimit) : ∃ text, plainAt level v = .ok text := by
  cases v with
  | text s => exact ⟨_, rfl⟩
  | failed error => exact ⟨_, rfl⟩
  | handle shown quoted stored => exact absurd (h.data _ (.self _)) id
  | _ => exact h.exists_quotedAt hlevel

theorem Denotable.exists_quoted (h : v.Denotable) (hdepth : v.depth ≤ depthLimit) :
    ∃ text, v.quoted = .ok text :=
  h.exists_quotedAt (by omega)

theorem Denotable.exists_plain (h : v.Denotable) (hdepth : v.depth ≤ depthLimit) :
    ∃ text, v.plain = .ok text :=
  h.exists_plainAt (by omega)

theorem Denotable.exists_lineAt (h : v.Denotable) {level : ℕ}
    (hlevel : level + v.depth ≤ depthLimit) : ∃ text, lineAt level v = .ok text := by
  induction v using nestedInduction generalizing level with
  | list items ih =>
    have hitem : ∀ v ∈ items, ∃ text, lineAt (level + 1) v = .ok text := by
      intro v hv
      have hlt := depth_item hv
      exact ih v hv (denotable_list.1 h v hv) (by omega)
    obtain ⟨texts, htexts⟩ := exists_mapM_ok hitem
    rw [depth] at hlevel
    rw [lineAt, if_pos (by omega), lineItems_eq, htexts]
    exact ⟨_, rfl⟩
  | _ => exact h.exists_plainAt hlevel

/-- **A value that a document can denote has a text in a line**, if it is not nested too deep. -/
theorem Denotable.exists_lineText (h : v.Denotable) (hdepth : v.depth ≤ depthLimit) :
    ∃ text, v.lineText = .ok text :=
  h.exists_lineAt (by omega)

end Provision.Value
