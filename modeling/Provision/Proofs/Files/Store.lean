import Mathlib.Data.List.Basic
import Provision.Files.Store

/-!
# What is written is read back

A file is written at a place that is no directory, so none of the directories on the way to it is
touched, and the same path leads there afterwards.

* `Store.walk_put`: the way to a place does not change when something is put there.
* `Store.read_write`: **what was written at a path is read there.**
-/

namespace Provision.Files.Store

variable {s s' : Store} {place other p : Path} {item : Item}

/-- A place that is no directory is not above the working directory. -/
theorem names_of_not_directory (h : s.item? place ≠ some .directory) :
    ¬ place.names.all (· = "..") = true := by
  intro hall
  unfold item? at h
  exact h (if_pos hall)

theorem item?_put_self (h : s.item? place ≠ some .directory) (item : Item) :
    (s.put place item).item? place = some item := by
  unfold item? put
  rw [if_neg (names_of_not_directory h), List.lookup_append]
  have hnone : (s.filter fun e => e.1 ≠ place).lookup place = none := by
    rw [List.lookup_eq_none_iff]
    intro e he
    have hne : e.1 ≠ place := by simpa using (List.mem_filter.1 he).2
    exact bne_iff_ne.2 hne.symm
  rw [hnone, Option.none_or, List.lookup_cons, beq_self_eq_true]

theorem lookup_filter_ne (s : Store) (h : other ≠ place) :
    (s.filter fun e => e.1 ≠ place).lookup other = s.lookup other := by
  induction s with
  | nil => rfl
  | cons e s ih =>
    obtain ⟨q, item⟩ := e
    by_cases hq : q = place
    · subst hq
      rw [List.filter_cons_of_neg (by simp), ih, List.lookup_cons, beq_eq_false_iff_ne.2 h]
    · rw [List.filter_cons_of_pos (by simpa using hq), List.lookup_cons, List.lookup_cons, ih]

theorem item?_put_other (h : other ≠ place) (s : Store) (item : Item) :
    (s.put place item).item? other = s.item? other := by
  unfold item? put
  rw [List.lookup_append, lookup_filter_ne s h]
  have hnone : List.lookup other [(place, item)] = none := by
    rw [List.lookup_cons, beq_eq_false_iff_ne.2 h]
    rfl
  rw [hnone, Option.or_none]

/-- A step on the way is made from a directory, which is not the place where something is put. -/
theorem enter_put (hplace : s.item? place ≠ some .directory) {q next : Path} {name : String}
    (h : s.enter q name = .ok next) : (s.put place item).enter q name = .ok next := by
  have hdir : s.item? q = some .directory := by
    unfold enter at h
    split at h
    · cases h
    · cases h
    · assumption
  have hne : q ≠ place := by
    rintro rfl
    exact hplace hdir
  unfold enter at h ⊢
  rw [item?_put_other hne]
  exact h

/-- **The way to a place does not change** when something is put there. -/
theorem walk_put (hplace : s.item? place ≠ some .directory) {q : Path} (h : s.walk p = .ok q) :
    (s.put place item).walk p = .ok q := by
  unfold walk at h ⊢
  split at h
  · cases h
  · split at h
    · cases h
    · rename_i hname hlimit
      rw [if_neg hname, if_neg hlimit]
      generalize ({ start := p.start } : Path) = from' at h ⊢
      generalize p.names = names at h ⊢
      induction names generalizing from' with
      | nil => exact h
      | cons name names ih =>
        rw [List.foldlM_cons] at h ⊢
        cases hstep : s.enter from' name with
        | error cause =>
          rw [hstep] at h
          cases h
        | ok next =>
          rw [hstep] at h
          rw [enter_put hplace hstep]
          exact ih next h

/-- **What was written at a path is read there.** -/
theorem read_write {bytes : List UInt8} (h : s.write p bytes = .ok s') :
    s'.read p = .ok bytes := by
  unfold write at h
  split at h
  · cases h
  · rename_i place hwalk
    split at h
    · cases h
    · rename_i hplace
      cases h
      unfold read find
      rw [walk_put hplace hwalk]
      simp only [item?_put_self hplace]

end Provision.Files.Store
