import Mathlib.Data.List.Forall2

/-!
# Steps that may fail

A sequence of steps gives a result only if each of its steps does, and going over a list gives one
if each of its items does. Otherwise the first failure is the failure of the whole.
-/

namespace Provision

variable {ε δ α β : Type}

/-- A sequence gives a result only if both of its parts do. -/
theorem ok_of_bind {x : Except ε α} {f : α → Except ε β} {b : β} (h : x >>= f = .ok b) :
    ∃ a, x = .ok a ∧ f a = .ok b := by
  cases x with
  | error e => cases h
  | ok a => exact ⟨a, rfl, h⟩

theorem ok_of_map {f : α → β} {x : Except ε α} {b : β} (h : f <$> x = .ok b) :
    ∃ a, x = .ok a ∧ f a = b := by
  cases x with
  | error e => cases h
  | ok a =>
    cases h
    exact ⟨a, rfl, rfl⟩

/-- Another wording of an error leaves results as they are. -/
theorem ok_of_mapError {f : ε → δ} {x : Except ε α} {a : α} (h : x.mapError f = .ok a) :
    x = .ok a := by
  cases x with
  | error e => cases h
  | ok b =>
    cases h
    rfl

section Lists

variable {f : α → Except ε β} {as : List α}

theorem exists_mapM {P : α → β → Prop} (h : ∀ a ∈ as, ∃ b, f a = .ok b ∧ P a b) :
    ∃ bs, as.mapM f = .ok bs ∧ List.Forall₂ P as bs := by
  induction as with
  | nil => exact ⟨[], rfl, .nil⟩
  | cons a as ih =>
    obtain ⟨⟨b, ha, hb⟩, has⟩ := List.forall_mem_cons.1 h
    obtain ⟨bs, hrest, hbs⟩ := ih has
    refine ⟨b :: bs, ?_, .cons hb hbs⟩
    rw [List.mapM_cons, ha, hrest]
    rfl

theorem exists_mapM_ok (h : ∀ a ∈ as, ∃ b, f a = .ok b) : ∃ bs, as.mapM f = .ok bs := by
  obtain ⟨bs, hbs, -⟩ := exists_mapM fun a ha => (h a ha).imp fun _ hb => ⟨hb, trivial⟩
  exact ⟨bs, hbs⟩

/-- Going over a list gives a result only if each item does. -/
theorem forall₂_of_mapM {bs : List β} (h : as.mapM f = .ok bs) :
    List.Forall₂ (fun a b => a ∈ as ∧ f a = .ok b) as bs := by
  induction as generalizing bs with
  | nil =>
    cases h
    exact .nil
  | cons a as ih =>
    rw [List.mapM_cons] at h
    obtain ⟨b, hb, h⟩ := ok_of_bind h
    obtain ⟨rest, hrest, h⟩ := ok_of_bind h
    cases h
    exact .cons ⟨List.mem_cons_self, hb⟩
      ((ih hrest).imp fun _ _ h => ⟨List.mem_cons_of_mem a h.1, h.2⟩)

/-- Going over a list fails if some items fail, all of them in the same way. -/
theorem mapM_eq_error {e : ε} (h : ∀ a ∈ as, (∃ b, f a = .ok b) ∨ f a = .error e)
    (hsome : ∃ a ∈ as, f a = .error e) : as.mapM f = .error e := by
  induction as with
  | nil =>
    obtain ⟨a, ha, -⟩ := hsome
    cases ha
  | cons a as ih =>
    obtain ⟨hfirst, hrest⟩ := List.forall_mem_cons.1 h
    rw [List.mapM_cons]
    rcases hfirst with ⟨b, hb⟩ | hb
    · obtain ⟨c, hc, hfails⟩ := hsome
      have hmem : c ∈ as := (List.mem_cons.1 hc).resolve_left fun heq => by
        rw [heq, hb] at hfails
        cases hfails
      rw [hb, ih hrest ⟨c, hmem, hfails⟩]
      rfl
    · rw [hb]
      rfl

theorem mapM_of_forall {g : α → β} (h : ∀ a ∈ as, f a = .ok (g a)) :
    as.mapM f = .ok (as.map g) := by
  induction as with
  | nil => rfl
  | cons a as ih =>
    obtain ⟨ha, has⟩ := List.forall_mem_cons.1 h
    rw [List.mapM_cons, ha, ih has]
    rfl

theorem mapM_of_first {g : α → β} {before after : List α} {a : α} {e : ε}
    (hbefore : ∀ b ∈ before, f b = .ok (g b)) (ha : f a = .error e) :
    (before ++ a :: after).mapM f = .error e := by
  induction before with
  | nil =>
    rw [List.nil_append, List.mapM_cons, ha]
    rfl
  | cons b before ih =>
    obtain ⟨hb, hrest⟩ := List.forall_mem_cons.1 hbefore
    rw [List.cons_append, List.mapM_cons, hb, ih hrest]
    rfl

end Lists

end Provision
