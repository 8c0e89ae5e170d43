import Mathlib.Data.List.Induction
import Provision.Table

/-!
# Laws of ordered tables

* `Table.get?_set`, `Table.set_of_not_mem`: what setting a key does to values and to the order of
  keys.
* `Table.update_of_nodup`: entries with new keys go to the end, in their order.
* `Table.get?_update`: the values after an update.
* `Table.ofEntries_append`: the table of a longer list of entries.
* `Table.update_update`: two updates are one, the order of keys included.
-/

namespace Provision.Table

universe u

variable {α : Type u}

theorem get?_cons (k : String) (v : α) (t : Table α) (key : String) :
    get? ((k, v) :: t) key = if key = k then some v else get? t key := by
  unfold get?
  rw [List.lookup_cons]
  by_cases h : key = k
  · simp [h]
  · have hb : (key == k) = false := by simpa using h
    simp [hb, h]

/-- **Setting a key** changes its value and no other. -/
theorem get?_set (t : Table α) (key other : String) (v : α) :
    get? (set t key v) other = if other = key then some v else get? t other := by
  induction t with
  | nil => simp [set, get?_cons]
  | cons e t ih =>
    obtain ⟨k, w⟩ := e
    unfold set
    by_cases hk : k = key
    · subst hk
      rw [if_pos rfl, get?_cons, get?_cons]
      by_cases h : other = k <;> simp [h]
    · rw [if_neg hk, get?_cons, get?_cons, ih]
      by_cases h : other = k
      · subst h; simp [hk]
      · rw [if_neg h, if_neg h]

theorem has_iff_mem_keys (t : Table α) (key : String) : t.has key = true ↔ key ∈ t.keys := by
  unfold has keys
  induction t with
  | nil => simp [get?]
  | cons e t ih =>
    obtain ⟨k, w⟩ := e
    rw [get?_cons, List.map_cons, List.mem_cons]
    by_cases h : key = k
    · simp [h]
    · rw [if_neg h, ih]; simp [h]

/-- A new key goes to the end. -/
theorem set_of_not_mem {t : Table α} {key : String} (h : key ∉ t.keys) (v : α) :
    t.set key v = t ++ [(key, v)] := by
  induction t with
  | nil => rfl
  | cons e t ih =>
    obtain ⟨k, w⟩ := e
    have hk : k ≠ key := fun he => h (by simp [keys, he])
    have ht : key ∉ keys t := fun hm => h (List.mem_cons_of_mem _ hm)
    unfold set
    rw [if_neg hk, ih ht]; rfl

theorem mem_keys_set {t : Table α} {key other : String} {v : α} :
    other ∈ (t.set key v).keys ↔ other = key ∨ other ∈ t.keys := by
  rw [← has_iff_mem_keys, ← has_iff_mem_keys, has, has, get?_set]
  by_cases h : other = key <;> simp [h]

/-- **Entries with new keys** are appended by an update, in their order. -/
theorem update_of_nodup (t u : Table α) (h : (t.keys ++ u.keys).Nodup) : t.update u = t ++ u := by
  induction u generalizing t with
  | nil => simp [update]
  | cons e u ih =>
    obtain ⟨k, w⟩ := e
    have hsplit := List.nodup_append.1 h
    have hk : k ∉ t.keys := fun hm => hsplit.2.2 k hm k List.mem_cons_self rfl
    have hnext : (keys (t ++ [(k, w)]) ++ keys u).Nodup := by
      simpa [keys] using h
    unfold update
    rw [List.foldl_cons, set_of_not_mem hk]
    have hrest := ih (t ++ [(k, w)]) hnext
    unfold update at hrest
    rw [hrest]; simp

theorem ofEntries_append (es : List (String × α)) (k : String) (v : α) :
    ofEntries (es ++ [(k, v)]) = (ofEntries es).set k v := by
  simp [ofEntries, update]

theorem mem_of_get? {t : Table α} {key : String} {v : α} (h : t.get? key = some v) :
    (key, v) ∈ t := by
  induction t with
  | nil => cases h
  | cons e t ih =>
    obtain ⟨k, w⟩ := e
    rw [get?_cons] at h
    split at h
    · rename_i hk
      cases h
      rw [hk]
      exact List.mem_cons_self
    · exact List.mem_cons_of_mem _ (ih h)

theorem get?_eq_none_iff {t : Table α} {key : String} : t.get? key = none ↔ key ∉ t.keys := by
  rw [← has_iff_mem_keys, has, Option.not_isSome_iff_eq_none]

theorem Distinct.get?_of_mem {t : Table α} (h : t.Distinct) {key : String} {v : α}
    (hmem : (key, v) ∈ t) : t.get? key = some v := by
  induction t with
  | nil => cases hmem
  | cons e t ih =>
    obtain ⟨k, w⟩ := e
    obtain ⟨hnot, hrest⟩ := List.nodup_cons.1 h
    rw [get?_cons]
    rcases List.mem_cons.1 hmem with heq | htail
    · cases heq
      rw [if_pos rfl]
    · have hkey : key ∈ keys t := List.mem_map_of_mem htail
      have hne : key ≠ k := fun heq => hnot (heq ▸ hkey)
      rw [if_neg hne, ih hrest htail]

theorem keys_set_of_mem {t : Table α} {key : String} (h : key ∈ t.keys) (v : α) :
    (t.set key v).keys = t.keys := by
  induction t with
  | nil => cases h
  | cons e t ih =>
    obtain ⟨k, w⟩ := e
    rw [set]
    by_cases hk : k = key
    · rw [if_pos hk]
      rfl
    · have htail : key ∈ keys t := by
        rcases List.mem_cons.1 h with heq | htail
        · exact absurd heq.symm hk
        · exact htail
      rw [if_neg hk]
      exact congrArg (k :: ·) (ih htail)

theorem mem_of_mem_set {t : Table α} {key : String} {v : α} {e : String × α}
    (h : e ∈ t.set key v) : e = (key, v) ∨ e ∈ t := by
  induction t with
  | nil => exact Or.inl (List.mem_singleton.1 h)
  | cons f t ih =>
    obtain ⟨k, w⟩ := f
    rw [set] at h
    split at h
    · rename_i hk
      rcases List.mem_cons.1 h with rfl | h
      · exact Or.inl (by rw [hk])
      · exact Or.inr (List.mem_cons_of_mem _ h)
    · rcases List.mem_cons.1 h with rfl | h
      · exact Or.inr List.mem_cons_self
      · exact (ih h).imp_right (List.mem_cons_of_mem _)

/-- Setting a key keeps keys different. -/
theorem Distinct.set {t : Table α} (h : t.Distinct) (key : String) (v : α) :
    (t.set key v).Distinct := by
  unfold Distinct at h ⊢
  by_cases hmem : key ∈ t.keys
  · rw [keys_set_of_mem hmem]
    exact h
  · have hkeys : (t ++ [(key, v)] : Table α).keys = t.keys ++ [key] := List.map_append
    rw [set_of_not_mem hmem, hkeys]
    refine List.nodup_append.2 ⟨h, by simp, fun k hk other hother => ?_⟩
    rw [List.mem_singleton.1 hother]
    exact fun heq => hmem (heq ▸ hk)

theorem mem_erase {t : Table α} {key : String} {e : String × α} :
    e ∈ t.erase key ↔ e ∈ t ∧ e.1 ≠ key := by
  simp [erase]

theorem mem_keys_erase {t : Table α} {key other : String} :
    other ∈ (t.erase key).keys ↔ other ∈ t.keys ∧ other ≠ key := by
  simp only [keys, List.mem_map, mem_erase]
  constructor
  · rintro ⟨e, ⟨he, hne⟩, rfl⟩
    exact ⟨⟨e, he, rfl⟩, hne⟩
  · rintro ⟨⟨e, he, rfl⟩, hne⟩
    exact ⟨e, ⟨he, hne⟩, rfl⟩

theorem Distinct.erase {t : Table α} (h : t.Distinct) (key : String) : (t.erase key).Distinct :=
  h.sublist (List.Sublist.map Prod.fst List.filter_sublist)

theorem distinct_ofEntries (entries : List (String × α)) : (ofEntries entries).Distinct := by
  induction entries using List.reverseRecOn with
  | nil => exact List.nodup_nil
  | append_singleton entries e ih =>
    rw [ofEntries_append]
    exact ih.set e.1 e.2

theorem mem_keys_ofEntries {entries : List (String × α)} {key : String} :
    key ∈ (ofEntries entries).keys ↔ key ∈ keys entries := by
  induction entries using List.reverseRecOn with
  | nil => exact Iff.rfl
  | append_singleton entries e ih =>
    have hkeys : keys (entries ++ [e]) = keys entries ++ [e.1] := List.map_append
    rw [ofEntries_append, mem_keys_set, ih, hkeys, List.mem_append, List.mem_singleton, or_comm]

/-- **Updating a table** gives each key its last new value, if it has one. -/
theorem get?_update (t u : Table α) (key : String) :
    (t.update u).get? key = ((ofEntries u).get? key).or (t.get? key) := by
  induction u using List.reverseRecOn with
  | nil => rfl
  | append_singleton u e ih =>
    have hlast : t.update (u ++ [e]) = (t.update u).set e.1 e.2 := by simp [update]
    rw [hlast, ofEntries_append, get?_set, get?_set, ih]
    by_cases h : key = e.1
    · rw [if_pos h, if_pos h, Option.some_or]
    · rw [if_neg h, if_neg h]

/-- The entries of a table are among those it was made of. -/
theorem mem_of_mem_ofEntries {entries : List (String × α)} {e : String × α}
    (h : e ∈ ofEntries entries) : e ∈ entries := by
  induction entries using List.reverseRecOn with
  | nil => exact h
  | append_singleton entries f ih =>
    rw [ofEntries_append] at h
    rcases mem_of_mem_set h with rfl | h
    · simp
    · exact List.mem_append_left _ (ih h)

@[simp] theorem keys_mapValues {β : Type*} (f : α → β) (t : Table α) :
    (t.mapValues f).keys = t.keys := by
  unfold keys mapValues
  rw [List.map_map]
  rfl

/-- Entries with different keys are a table as they are. -/
theorem ofEntries_of_distinct {t : Table α} (h : t.Distinct) : ofEntries t = t := by
  have hnodup : (keys ([] : Table α) ++ t.keys).Nodup := h
  rw [ofEntries, update_of_nodup _ _ hnodup, List.nil_append]

/-! ## A table made from names -/

theorem get?_map_names (f : String → α) (names : List String) (key : String) :
    get? (names.map fun name => (name, f name)) key =
      if key ∈ names then some (f key) else none := by
  induction names with
  | nil => rfl
  | cons name names ih =>
    rw [List.map_cons, get?_cons, ih]
    by_cases h : key = name
    · simp [h]
    · simp [h]

theorem set_map_names {names : List String} (hnodup : names.Nodup) {key : String} (h : key ∈ names)
    (f : String → α) (v : α) :
    set (names.map fun name => (name, f name)) key v =
      names.map fun name => (name, if name = key then v else f name) := by
  induction names with
  | nil => cases h
  | cons name names ih =>
    obtain ⟨hnot, hrest⟩ := List.nodup_cons.1 hnodup
    rw [List.map_cons, List.map_cons, set]
    by_cases hname : name = key
    · -- the key does not occur again
      have hsame : (names.map fun name => (name, f name)) =
          names.map fun name => (name, if name = key then v else f name) := by
        refine List.map_congr_left fun other hother => ?_
        rw [if_neg]
        rintro rfl
        exact hnot (hname ▸ hother)
      rw [if_pos hname, if_pos hname, hsame]
    · rw [if_neg hname, if_neg hname, ih hrest ((List.mem_cons.1 h).resolve_left (Ne.symm hname))]

/-! ## Values changed or left out -/

section FilterMap

universe v

variable {β : Type v}

/-- Entries with some of the values changed and the others left out have the keys of the table, in
its order. -/
theorem keys_filterMap_sublist (f : α → Option β) (t : Table α) :
    (keys (t.filterMap fun e => (f e.2).map fun w => (e.1, w))).Sublist t.keys := by
  induction t with
  | nil => exact List.Sublist.refl _
  | cons e t ih =>
    cases hf : f e.2 with
    | none =>
      rw [List.filterMap_cons_none (by rw [hf]; rfl)]
      exact ih.cons _
    | some w =>
      rw [List.filterMap_cons_some (by rw [hf]; rfl)]
      exact ih.cons_cons _

theorem Distinct.filterMap {t : Table α} (h : t.Distinct) (f : α → Option β) :
    Distinct (t.filterMap fun e => (f e.2).map fun w => (e.1, w)) :=
  h.sublist (keys_filterMap_sublist f t)

theorem get?_filterMap {t : Table α} (h : t.Distinct) (f : α → Option β) (key : String) :
    get? (t.filterMap fun e => (f e.2).map fun w => (e.1, w)) key = (t.get? key).bind f := by
  induction t with
  | nil => rfl
  | cons e t ih =>
    obtain ⟨k, v⟩ := e
    obtain ⟨hnot, hrest⟩ := List.nodup_cons.1 h
    cases hf : f v with
    | none =>
      rw [List.filterMap_cons_none (by rw [hf]; rfl), ih hrest, get?_cons]
      by_cases hkey : key = k
      · -- an entry that is left out, and no other has its key
        rw [if_pos hkey, get?_eq_none_iff.2 (hkey ▸ hnot), Option.bind_some, hf]
        rfl
      · rw [if_neg hkey]
    | some w =>
      rw [List.filterMap_cons_some (by rw [hf]; rfl), get?_cons, get?_cons, ih hrest]
      by_cases hkey : key = k
      · rw [if_pos hkey, if_pos hkey, Option.bind_some, hf]
      · rw [if_neg hkey, if_neg hkey]

end FilterMap

theorem has_update (t u : Table α) (key : String) :
    (t.update u).has key = (u.has key || t.has key) := by
  have hu : (ofEntries u).has key = u.has key := by
    rw [Bool.eq_iff_iff, has_iff_mem_keys, has_iff_mem_keys, mem_keys_ofEntries]
  rw [← hu, has, get?_update, Option.isSome_or]
  rfl

/-! ## Updates one after the other -/

theorem update_cons (t u : Table α) (e : String × α) :
    t.update (e :: u) = (t.set e.1 e.2).update u := rfl

theorem update_append (t u u' : Table α) : t.update (u ++ u') = (t.update u).update u' :=
  List.foldl_append

theorem Distinct.update {t : Table α} (h : t.Distinct) (u : Table α) : (t.update u).Distinct := by
  induction u generalizing t with
  | nil => exact h
  | cons e u ih => exact ih (h.set e.1 e.2)

theorem mem_of_mem_update {t u : Table α} {e : String × α} (h : e ∈ t.update u) :
    e ∈ t ∨ e ∈ u := by
  induction u generalizing t with
  | nil => exact Or.inl h
  | cons f u ih =>
    rw [update_cons] at h
    rcases ih h with h | h
    · rcases mem_of_mem_set h with rfl | h
      · exact Or.inr List.mem_cons_self
      · exact Or.inl h
    · exact Or.inr (List.mem_cons_of_mem f h)

/-- Setting a key to the value that it has changes nothing. -/
theorem set_of_get? {t : Table α} {key : String} {v : α} (h : t.get? key = some v) :
    t.set key v = t := by
  induction t with
  | nil => cases h
  | cons e t ih =>
    obtain ⟨k, w⟩ := e
    rw [get?_cons] at h
    rw [set]
    by_cases hk : k = key
    · rw [if_pos hk.symm] at h
      rw [if_pos hk, Option.some.inj h]
    · rw [if_neg (Ne.symm hk)] at h
      rw [if_neg hk, ih h]

/-- Of two values for a key the second one counts. -/
theorem set_set (t : Table α) (key : String) (v w : α) :
    (t.set key v).set key w = t.set key w := by
  induction t with
  | nil => simp [set]
  | cons e t ih =>
    obtain ⟨k, u⟩ := e
    by_cases hk : k = key
    · simp [set, hk]
    · simp [set, hk, ih]

/-- A key that has its place can be set before another one. -/
theorem set_comm {t : Table α} {key other : String} (hmem : key ∈ t.keys) (hne : other ≠ key)
    (v w : α) : (t.set other w).set key v = (t.set key v).set other w := by
  induction t with
  | nil => cases hmem
  | cons e t ih =>
    obtain ⟨k, u⟩ := e
    by_cases hk : k = key
    · simp [set, hk, Ne.symm hne]
    · have htail : key ∈ keys t := (List.mem_cons.1 hmem).resolve_left (Ne.symm hk)
      by_cases hother : k = other
      · simp [set, hother, hne]
      · simp [set, hk, hother, ih htail]

theorem set_update {t u : Table α} {key : String} (hmem : key ∈ t.keys) (hnot : key ∉ u.keys)
    (v : α) : (t.update u).set key v = (t.set key v).update u := by
  induction u generalizing t with
  | nil => rfl
  | cons e u ih =>
    obtain ⟨hne, hrest⟩ := not_or.1 (mt List.mem_cons.2 hnot)
    rw [update_cons, update_cons, ih (mem_keys_set.2 (Or.inr hmem)) hrest,
      set_comm hmem (Ne.symm hne)]

theorem update_set {u : Table α} (h : u.Distinct) (t : Table α) (key : String) (v : α) :
    t.update (u.set key v) = (t.update u).set key v := by
  induction u generalizing t with
  | nil => rfl
  | cons e u ih =>
    obtain ⟨k, w⟩ := e
    obtain ⟨hnot, hrest⟩ := List.nodup_cons.1 h
    rw [set, update_cons]
    by_cases hk : k = key
    · subst hk
      rw [if_pos rfl, update_cons, set_update (mem_keys_set.2 (Or.inl rfl)) hnot, set_set]
    · rw [if_neg hk, update_cons, ih hrest]

/-- **Two updates are one**, by the table of all new values. -/
theorem update_update {u : Table α} (h : u.Distinct) (t u' : Table α) :
    t.update (u.update u') = (t.update u).update u' := by
  induction u' generalizing u with
  | nil => rfl
  | cons e u' ih => rw [update_cons, update_cons, ih (h.set e.1 e.2), update_set h]

theorem update_of_get? {t u : Table α} (h : ∀ e ∈ u, t.get? e.1 = some e.2) : t.update u = t := by
  induction u with
  | nil => rfl
  | cons e u ih =>
    obtain ⟨he, hrest⟩ := List.forall_mem_cons.1 h
    rw [update_cons, set_of_get? he, ih hrest]

theorem update_self {t : Table α} (h : t.Distinct) : t.update t = t :=
  update_of_get? fun _ he => h.get?_of_mem he

theorem sortedEntries_perm (t : Table α) : t.sortedEntries.Perm t :=
  List.mergeSort_perm _ _

end Provision.Table
