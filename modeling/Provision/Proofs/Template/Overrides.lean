import Mathlib.Data.List.Nodup
import Provision.Proofs.Template.Order
import Provision.Proofs.Text.Cut
import Provision.Proofs.Value.Equality

/-!
# What overrides are for

The key of an override is cut at its first dot. So an override is for the parameter `param` of the
expressions of `entity` if its key is `entity.param`, where the parameter may have further dots and
the entity has none; an entity with a dot in it is out of reach. Different keys are for different
parameters of an entity, which is why the order of overrides does not matter.

* `Table.renamed_update`: entries under other names, when each name is for one key only.
* `Template.overridesFor`: the overrides for an entity, by the keys they have.
* `Template.overridesOf_eq`: these are the ones that its expressions get.
* `overrides_apply_pointwise`: **what overrides do to an expression**, and that their order, their
  repetition and their division into stages do not matter.
-/

namespace Provision

/-! ## Entries under other names -/

namespace Table

universe u

variable {α : Type u}

/-- The entries whose keys have another name, under that name. -/
def renamed (rename : String → Option String) (t : Table α) : Table α :=
  t.filterMap fun e => (rename e.1).map fun name => (name, e.2)

variable {rename : String → Option String} {key name : String}

theorem renamed_cons_some (h : rename key = some name) (v : α) (t : Table α) :
    renamed rename ((key, v) :: t) = (name, v) :: t.renamed rename :=
  List.filterMap_cons_some (by rw [h]; rfl)

theorem renamed_cons_none (h : rename key = none) (v : α) (t : Table α) :
    renamed rename ((key, v) :: t) = t.renamed rename :=
  List.filterMap_cons_none (by rw [h]; rfl)

theorem keys_renamed (rename : String → Option String) (t : Table α) :
    (t.renamed rename).keys = t.keys.filterMap rename := by
  unfold keys renamed
  rw [List.map_filterMap, List.filterMap_map]
  refine List.filterMap_congr fun e _ => ?_
  rw [Option.map_map, Function.comp_apply]
  exact congrFun Option.map_id _

theorem renamed_set_none (h : rename key = none) (t : Table α) (v : α) :
    (t.set key v).renamed rename = t.renamed rename := by
  induction t with
  | nil => exact renamed_cons_none h v []
  | cons e t ih =>
    obtain ⟨k, w⟩ := e
    rw [set]
    by_cases hk : k = key
    · subst hk
      rw [if_pos rfl, renamed_cons_none h, renamed_cons_none h]
    · rw [if_neg hk]
      cases hname : rename k with
      | none => rw [renamed_cons_none hname, renamed_cons_none hname, ih]
      | some other => rw [renamed_cons_some hname, renamed_cons_some hname, ih]

/-- A name is given to one key only. -/
def Unambiguous (rename : String → Option String) : Prop :=
  ∀ key key' name, rename key = some name → rename key' = some name → key = key'

theorem renamed_set_some (hr : Unambiguous rename) (h : rename key = some name) (t : Table α)
    (v : α) : (t.set key v).renamed rename = (t.renamed rename).set name v := by
  induction t with
  | nil => exact renamed_cons_some h v []
  | cons e t ih =>
    obtain ⟨k, w⟩ := e
    rw [set]
    by_cases hk : k = key
    · subst hk
      rw [if_pos rfl, renamed_cons_some h, renamed_cons_some h, set, if_pos rfl]
    · rw [if_neg hk]
      cases hname : rename k with
      | none => rw [renamed_cons_none hname, renamed_cons_none hname, ih]
      | some other =>
        -- an entry with another key has another name
        have hne : other ≠ name := by
          rintro rfl
          exact hk (hr k key other hname h)
        rw [renamed_cons_some hname, renamed_cons_some hname, ih, set, if_neg hne]

/-- **An update under other names** updates the entries under other names. -/
theorem renamed_update (hr : Unambiguous rename) (t u : Table α) :
    (t.update u).renamed rename = (t.renamed rename).update (u.renamed rename) := by
  induction u generalizing t with
  | nil => rfl
  | cons e u ih =>
    obtain ⟨key, v⟩ := e
    rw [update_cons, ih]
    cases hname : rename key with
    | none => rw [renamed_set_none hname, renamed_cons_none hname]
    | some name => rw [renamed_set_some hr hname, renamed_cons_some hname, update_cons]

theorem Distinct.renamed (hr : Unambiguous rename) {t : Table α} (h : t.Distinct) :
    (t.renamed rename).Distinct := by
  unfold Distinct
  rw [keys_renamed]
  exact List.Nodup.filterMap hr h

theorem get?_renamed (hr : Unambiguous rename) (h : rename key = some name) (t : Table α) :
    (t.renamed rename).get? name = t.get? key := by
  induction t with
  | nil => rfl
  | cons e t ih =>
    obtain ⟨k, v⟩ := e
    rw [get?_cons]
    cases hk : rename k with
    | none =>
      have hne : key ≠ k := by
        rintro rfl
        rw [h] at hk
        cases hk
      rw [renamed_cons_none hk, ih, if_neg hne]
    | some other =>
      have hiff : name = other ↔ key = k := by
        constructor
        · rintro rfl
          exact hr key k name h hk
        · rintro rfl
          exact Option.some.inj (h.symm.trans hk)
      rw [renamed_cons_some hk, get?_cons, ih]
      simp only [hiff]

/-! ## Order -/

theorem agrees_of_perm {t u : Table α} (h : t.Distinct) (hperm : t.Perm u) : t.Agrees u := by
  have hu : u.Distinct := (hperm.map Prod.fst).nodup_iff.1 h
  intro key
  refine Option.ext fun v => ⟨fun hv => ?_, fun hv => ?_⟩
  · exact hu.get?_of_mem (hperm.mem_iff.1 (mem_of_get? hv))
  · exact h.get?_of_mem (hperm.mem_iff.2 (mem_of_get? hv))

/-- **Old keys keep their places, and new ones come after them** in the order of the update. -/
theorem keys_update {u : Table α} (h : u.Distinct) (t : Table α) :
    (t.update u).keys = t.keys ++ (u.without t.keys).keys := by
  induction u generalizing t with
  | nil => exact (List.append_nil _).symm
  | cons e u ih =>
    obtain ⟨k, v⟩ := e
    obtain ⟨hnot, hrest⟩ := List.nodup_cons.1 h
    rw [update_cons, ih hrest]
    by_cases hk : k ∈ t.keys
    · have hout : without ((k, v) :: u) t.keys = without u t.keys := by
        simp [without, hk]
      rw [keys_set_of_mem hk, hout]
    · have hin : without ((k, v) :: u) t.keys = (k, v) :: without u t.keys := by
        simp [without, hk]
      have hkeys : (t.set k v).keys = t.keys ++ [k] := by
        rw [set_of_not_mem hk]
        exact List.map_append
      -- no other entry of the update has the new key
      have hsame : without u (t.keys ++ [k]) = without u t.keys := by
        refine List.filter_congr fun e he => ?_
        have hkey : e.1 ∈ keys u := List.mem_map_of_mem he
        have hne : e.1 ≠ k := fun heq => hnot (heq ▸ hkey)
        simp [hne]
      rw [hkeys, hin, hsame, List.append_assoc]
      rfl

end Table

namespace Template

/-! ## Keys -/

/-- The parameter of an entity that a key is for, if there is one: the key is the entity, which has
no dot, then a dot and the parameter. -/
def paramFor? (entity key : String) : Option String :=
  if '.' ∈ entity.toList then none
  else ((entity ++ ".").toList.isPrefixOf? key.toList).map String.ofList

theorem paramFor?_eq_some_iff {entity key param : String} :
    paramFor? entity key = some param ↔ '.' ∉ entity.toList ∧ key = entity ++ "." ++ param := by
  unfold paramFor?
  split
  · rename_i hdot
    exact iff_of_false (fun h => by cases h) fun h => h.1 hdot
  · rename_i hdot
    rw [Option.map_eq_some_iff, ← String.toList_inj, @String.toList_append (entity ++ ".") param]
    constructor
    · rintro ⟨cs, hcs, rfl⟩
      rw [String.toList_ofList]
      exact ⟨hdot, (List.isPrefixOf?_eq_some_iff_append_eq.1 hcs).symm⟩
    · rintro ⟨-, hkey⟩
      exact ⟨param.toList, List.isPrefixOf?_eq_some_iff_append_eq.2 hkey.symm,
        String.ofList_toList⟩

/-- **Cutting a key at its first dot** tells the entity and the parameter that it is for. -/
theorem overrideTarget?_eq_some_iff {entity key param : String} :
    overrideTarget? key = some (entity, param) ↔ paramFor? entity key = some param := by
  have hdot : ".".toList = ['.'] := rfl
  unfold overrideTarget?
  rw [Text.cut_eq_some_iff, paramFor?_eq_some_iff, and_comm, ← String.toList_inj,
    String.toList_append, String.toList_append, hdot, List.append_assoc, List.singleton_append]

theorem unambiguous_paramFor? (entity : String) : Table.Unambiguous (paramFor? entity) := by
  intro key key' param hkey hkey'
  rw [(paramFor?_eq_some_iff.1 hkey).2, (paramFor?_eq_some_iff.1 hkey').2]

/-! ## Overrides for an entity -/

/-- The overrides for an entity: each parameter `param` for which there is a value at the key
`entity.param`, with that value, in the order of the keys. There are none if the entity has a
dot. -/
def overridesFor (overrides : Table Value) (entity : String) : Table Value :=
  overrides.renamed (paramFor? entity)

/-- **What the expressions of an entity get** are the overrides for it. -/
theorem overridesOf_eq (overrides : Table Value) (entity : String) :
    overridesOf overrides entity = overridesFor overrides entity := by
  refine List.filterMap_congr fun o _ => ?_
  cases hparam : paramFor? entity o.1 with
  | some param =>
    rw [overrideTarget?_eq_some_iff.2 hparam]
    exact if_pos rfl
  | none =>
    -- whatever entity the key is for, it is another one
    cases htarget : overrideTarget? o.1 with
    | none => rfl
    | some target =>
      have hne : entity ≠ target.1 := by
        rintro rfl
        rw [overrideTarget?_eq_some_iff.1 htarget] at hparam
        cases hparam
      exact if_neg hne

theorem distinct_overridesFor {overrides : Table Value} (h : overrides.Distinct) (entity : String) :
    (overridesFor overrides entity).Distinct :=
  h.renamed (unambiguous_paramFor? entity)

/-- **The value for a parameter** is the one at its key. -/
theorem get?_overridesFor (overrides : Table Value) (entity param : String) :
    (overridesFor overrides entity).get? param =
      if '.' ∈ entity.toList then none else overrides.get? (entity ++ "." ++ param) := by
  unfold overridesFor
  split
  · rename_i hdot
    have hnone : ∀ key, paramFor? entity key = none := fun key => if_pos hdot
    have hnil : overrides.renamed (paramFor? entity) = [] :=
      List.filterMap_eq_nil_iff.2 fun o _ => by rw [hnone, Option.map_none]
    rw [hnil]
    rfl
  · rename_i hdot
    exact Table.get?_renamed (unambiguous_paramFor? entity)
      (paramFor?_eq_some_iff.2 ⟨hdot, rfl⟩) overrides

/-- **Overrides by the keys they have.** -/
theorem merge_eq_overridesFor (overrides : Table Value) (t : Template) :
    t.merge overrides = t.mapExpressions fun e => e.setAll (overridesFor overrides e.entity) := by
  rw [merge_eq]
  congr 1
  funext e
  rw [overridesOf_eq]

end Template

/-! ## One after the other -/

/-- **Settings in two stages** amount to those of both, with later values in place of earlier
ones. -/
theorem Expression.setAll_update {xs : Table Value} (h : xs.Distinct) (ys : Table Value)
    (e : Expression) : e.setAll (xs.update ys) = (e.setAll xs).setAll ys := by
  have hnames : ∀ name, name ∈ (xs.update ys).map Prod.fst ↔ name ∈ (xs ++ ys).map Prod.fst := by
    intro name
    have hkeys := Table.has_update xs ys name
    rw [Bool.eq_iff_iff, Bool.or_eq_true, Table.has_iff_mem_keys, Table.has_iff_mem_keys,
      Table.has_iff_mem_keys] at hkeys
    rw [List.map_append, List.mem_append, or_comm]
    exact hkeys
  rw [← setAll_append, setAll_eq, setAll_eq, Table.update_append, Table.update_update h,
    Table.without_congr hnames, Table.without_congr hnames, Table.without_congr hnames]

open Template

/-- **Merging in stages** is merging once, with later overrides in place of earlier ones. -/
theorem Template.merge_merge {overrides : Table Value} (h : overrides.Distinct) (more : Table Value)
    (t : Template) : (t.merge overrides).merge more = t.merge (overrides.update more) := by
  rw [merge_eq_overridesFor, merge_eq_overridesFor, merge_eq_overridesFor,
    mapExpressions_mapExpressions]
  congr 1
  funext e
  have hfor : overridesFor (overrides.update more) e.entity =
      (overridesFor overrides e.entity).update (overridesFor more e.entity) :=
    Table.renamed_update (unambiguous_paramFor? e.entity) overrides more
  rw [Function.comp_apply, Expression.setAll_entity, hfor,
    Expression.setAll_update (distinct_overridesFor h e.entity)]

/-- Overrides may be merged in any order. -/
theorem Template.merge_perm {overrides overrides' : Table Value} (h : overrides.Distinct)
    (hperm : overrides.Perm overrides') (t : Template) :
    (t.merge overrides).Agrees (t.merge overrides') := by
  rw [merge_eq_overridesFor, merge_eq_overridesFor]
  refine agrees_mapExpressions fun e _ => Expression.setAll_agrees ?_ e
  have hfor := distinct_overridesFor h e.entity
  have hfor' : (overridesFor overrides e.entity).Perm (overridesFor overrides' e.entity) :=
    hperm.filterMap _
  rw [Table.ofEntries_of_distinct hfor,
    Table.ofEntries_of_distinct ((hfor'.map Prod.fst).nodup_iff.1 hfor)]
  exact Table.agrees_of_perm hfor hfor'

/-- **What overrides do to an expression**: its literal parameters are updated by the overrides for
its entity, whose names are taken out of the other three tables, and nothing else is changed. A
parameter `param` gets the value at the key `entity.param`, if there is one and the entity has no
dot. Old parameters keep their places and new ones come after them, in the order of the overrides.
**So neither their order nor their repetition matters**, and overrides may be merged in stages. -/
theorem overrides_apply_pointwise {overrides : Table Value} (h : overrides.Distinct)
    (t : Template) :
    (t.merge overrides = t.mapExpressions fun e =>
      { e with
        params := e.params.update (overridesFor overrides e.entity)
        refs := e.refs.without (overridesFor overrides e.entity).keys
        aliases := e.aliases.without (overridesFor overrides e.entity).keys
        holes := e.holes.without (overridesFor overrides e.entity).keys }) ∧
    (∀ e : Expression,
      (e.params.update (overridesFor overrides e.entity)).keys =
        e.params.keys ++ ((overridesFor overrides e.entity).without e.params.keys).keys ∧
      ∀ param, (e.params.update (overridesFor overrides e.entity)).get? param =
        (if '.' ∈ e.entity.toList then none
          else overrides.get? (e.entity ++ "." ++ param)).or (e.params.get? param)) ∧
    (∀ overrides', overrides.Perm overrides' →
      (t.merge overrides).Agrees (t.merge overrides')) ∧
    (t.merge overrides).merge overrides = t.merge overrides ∧
    ∀ more, (t.merge overrides).merge more = t.merge (overrides.update more) := by
  have hfor := distinct_overridesFor h
  refine ⟨?_, fun e => ⟨Table.keys_update (hfor _) _, fun param => ?_⟩,
    fun overrides' hperm => merge_perm h hperm t, ?_, fun more => merge_merge h more t⟩
  · rw [merge_eq_overridesFor]
    congr 1
    funext e
    exact Expression.setAll_eq e _
  · rw [Table.get?_update, Table.ofEntries_of_distinct (hfor _), get?_overridesFor]
  · rw [merge_merge h, Table.update_self h]

/-- Two sizes to be overridden, one of an entity with a dot and one of an entity without a name, and
a hole for a parameter with a dot. -/
def dotted : Template where
  statements :=
    [{ node := .declaration { name := "web" }
        { action := "create", entity := "server", params := [("size", .int 1)],
          holes := [("tags.env", "env")] } },
     { node := .expression { action := "create", entity := "a.b", params := [("size", .int 1)] } },
     { node := .expression { action := "create", params := [("b.size", .int 1)] } }]

/-- Overrides for a new parameter, for a parameter of an entity that is nowhere, for one of the
entity without a name, and for an old parameter. -/
def dottedOverrides : Table Value :=
  [("server.tags.env", .text "prod"), ("a.b.size", .int 3), (".b.size", .int 5),
   ("server.size", .int 4)]

theorem overrides_apply_pointwise_dotted :
    dottedOverrides.Distinct ∧ dottedOverrides.Perm dottedOverrides.reverse ∧
    (dotted.merge dottedOverrides).Agrees (dotted.merge dottedOverrides.reverse) ∧
    (dotted.merge dottedOverrides).expressions.map Expression.params =
      [[("size", .int 4), ("tags.env", .text "prod")], [("size", .int 1)], [("b.size", .int 5)]] ∧
    (dotted.merge dottedOverrides).expressions.map Expression.holes = [[], [], []] := by
  have hdistinct : dottedOverrides.keys.Nodup := by decide
  have hperm := dottedOverrides.reverse_perm.symm
  obtain ⟨heq, -, horder, -⟩ := overrides_apply_pointwise hdistinct dotted
  refine ⟨hdistinct, hperm, horder _ hperm, ?_, ?_⟩
  · rw [heq]
    decide +kernel
  · rw [heq]
    decide +kernel

end Provision
