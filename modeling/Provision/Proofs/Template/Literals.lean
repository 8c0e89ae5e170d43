import Mathlib.Data.List.Nodup
import Provision.Proofs.Template.Names

/-!
# Several parameters made literal

Setting several parameters, one after the other, updates the literal ones and takes the names out
of the other three tables (`Expression.setAll_params`, `Expression.setAll_refs` and so on).
-/

namespace Provision

namespace Table

universe u

variable {α : Type u}

/-- The entries with other names. -/
def without (t : Table α) (names : List String) : Table α :=
  List.filter (fun e => !names.contains e.1) t

theorem without_nil (t : Table α) : t.without [] = t := by
  simp [without]

theorem without_erase (t : Table α) (name : String) (names : List String) :
    (t.erase name).without names = t.without (name :: names) := by
  unfold without erase
  rw [List.filter_filter]
  refine List.filter_congr fun e _ => ?_
  rw [List.contains_cons, Bool.not_or, Bool.and_comm]
  rfl

/-- Nothing is left without all names. -/
theorem without_keys (t : Table α) : t.without t.keys = [] := by
  refine List.filter_eq_nil_iff.2 fun e he => ?_
  simpa [keys] using ⟨e.2, he⟩

theorem without_of_disjoint {t : Table α} {names : List String}
    (h : ∀ name ∈ names, name ∉ t.keys) :
    t.without names = t := by
  refine List.filter_eq_self.2 fun e he => ?_
  have hnot : e.1 ∉ names := fun hmem => h e.1 hmem (List.mem_map_of_mem he)
  simpa using hnot

/-- Without the first names of a table, its first entries are gone. -/
theorem without_take {t : Table α} (h : t.Distinct) (k : ℕ) :
    t.without (t.keys.take k) = t.drop k := by
  have htake : keys (t.take k) = t.keys.take k := List.map_take
  have hdrop : keys (t.drop k) = t.keys.drop k := List.map_drop
  have hlater : without (t.drop k) (t.keys.take k) = t.drop k := by
    refine without_of_disjoint fun name hname hlater => ?_
    rw [hdrop] at hlater
    exact List.disjoint_take_drop h (Nat.le_refl k) hname hlater
  calc t.without (t.keys.take k)
      = without (t.take k ++ t.drop k) (t.keys.take k) := by rw [List.take_append_drop]
    _ = without (t.take k) (t.keys.take k) ++ without (t.drop k) (t.keys.take k) :=
        List.filter_append _ _
    _ = t.drop k := by rw [← htake, without_keys, htake, hlater, List.nil_append]

end Table

namespace Expression

variable (e : Expression) (values : List (String × Value))

theorem setAll_params : (e.setAll values).params = e.params.update values := by
  induction values generalizing e with
  | nil => rfl
  | cons x values ih => exact ih (e.set x.1 x.2)

/-- What a single setting leaves alone, several leave alone. -/
theorem setAll_kept {α : Type} {part : Expression → α}
    (h : ∀ e name v, part (Expression.set e name v) = part e) :
    part (e.setAll values) = part e := by
  induction values generalizing e with
  | nil => rfl
  | cons x values ih => exact (ih (e.set x.1 x.2)).trans (h e x.1 x.2)

/-- A table out of which a single setting takes the name loses all names of several. -/
theorem setAll_without {table : Expression → Table String}
    (h : ∀ e name v, table (Expression.set e name v) = (table e).erase name) :
    table (e.setAll values) = (table e).without (values.map Prod.fst) := by
  induction values generalizing e with
  | nil => exact (Table.without_nil _).symm
  | cons x values ih =>
    have hrest := ih (e.set x.1 x.2)
    rw [h, Table.without_erase] at hrest
    exact hrest

theorem setAll_action : (e.setAll values).action = e.action := setAll_kept e values fun _ _ _ => rfl

theorem setAll_entity : (e.setAll values).entity = e.entity := setAll_kept e values fun _ _ _ => rfl

theorem setAll_refs : (e.setAll values).refs = e.refs.without (values.map Prod.fst) :=
  setAll_without e values fun _ _ _ => rfl

theorem setAll_aliases : (e.setAll values).aliases = e.aliases.without (values.map Prod.fst) :=
  setAll_without e values fun _ _ _ => rfl

theorem setAll_holes : (e.setAll values).holes = e.holes.without (values.map Prod.fst) :=
  setAll_without e values fun _ _ _ => rfl

/-- **Several settings at once**: the literal parameters are updated, and the names are taken out of
the other three tables. -/
theorem setAll_eq : e.setAll values =
    { e with
      params := e.params.update values
      refs := e.refs.without (values.map Prod.fst)
      aliases := e.aliases.without (values.map Prod.fst)
      holes := e.holes.without (values.map Prod.fst) } := by
  rw [← setAll_params, ← setAll_refs, ← setAll_aliases, ← setAll_holes, ← setAll_action e values,
    ← setAll_entity e values]

end Expression

end Provision
