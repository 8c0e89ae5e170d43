import Provision.Proofs.Template.Agreement

/-!
# The order of passes

Overrides, fills and values for aliases can be for the same parameters, so that one of them could
win or lose by the order of the passes. It does not: an override takes the place of what was filled
in before, and takes the hole away from a fill that comes later; and no parameter is an alias and a
hole at once.

* `Template.merge_eq`: overrides set the parameters of an expression, by its entity.
* `Template.after_perm`: passes of which any two commute may be made in any order.
* `passes_commute`: **overriding, filling and resolving aliases commute.**
-/

namespace Provision

/-! ## What a pass sets on an expression -/

namespace Template

/-- What overrides set on an expression of an entity, in their order. -/
def overridesOf (overrides : Table Value) (entity : String) : List (String × Value) :=
  overrides.filterMap fun o =>
    match overrideTarget? o.1 with
    | some (target, param) => if entity = target then some (param, o.2) else none
    | none => none

theorem override_eq (o : String × Value) (e : Expression) :
    override o.1 o.2 e = e.setAll (overridesOf [o] e.entity) := by
  unfold override overridesOf
  cases htarget : overrideTarget? o.1 with
  | none => simp [htarget, Expression.setAll]
  | some target =>
    by_cases hentity : e.entity = target.1
    · simp [htarget, hentity, Expression.setAll]
    · simp [htarget, hentity, Expression.setAll]

/-- **Overrides, all at once.** -/
theorem merge_eq (overrides : Table Value) (t : Template) :
    t.merge overrides = t.mapExpressions fun e => e.setAll (overridesOf overrides e.entity) := by
  induction overrides generalizing t with
  | nil =>
    have hself : t.statements.map (Statement.mapExpression fun e => e.setAll []) = t.statements :=
      List.map_id'' (fun _ => Statement.mapExpression_self rfl) _
    exact congrArg Template.mk hself.symm
  | cons o overrides ih =>
    have hcons : ∀ entity, overridesOf (o :: overrides) entity =
        overridesOf [o] entity ++ overridesOf overrides entity := fun _ =>
      List.filterMap_append (l := [o])
    calc t.merge (o :: overrides)
        = (t.mapExpressions (override o.1 o.2)).merge overrides := rfl
      _ = t.mapExpressions ((fun e => e.setAll (overridesOf overrides e.entity)) ∘
            override o.1 o.2) := by rw [ih, mapExpressions_mapExpressions]
      _ = t.mapExpressions fun e => e.setAll (overridesOf (o :: overrides) e.entity) := by
        congr 1
        funext e
        rw [Function.comp_apply, override_eq, Expression.setAll_entity, hcons,
          Expression.setAll_append]

theorem keys_fillings_subset (fills : Table Value) (holes : Table String) :
    Table.keys (fillings fills holes) ⊆ holes.keys :=
  (Table.keys_filterMap_sublist fills.get? holes).subset

/-- Fills for the parameters that are left. -/
theorem fillings_without (fills : Table Value) (holes : Table String) (names : List String) :
    fillings fills (holes.without names) = Table.without (fillings fills holes) names := by
  unfold fillings Table.without
  rw [List.filterMap_filter, List.filter_filterMap]
  refine List.filterMap_congr fun x _ => ?_
  cases hfill : fills.get? x.2 with
  | none => simp [hfill]
  | some v => simp [hfill, Option.filter_some]

end Template

/-! ## Passes that commute -/

namespace Pass

/-- Either of two passes may come first. -/
def Commutes (p q : Pass) : Prop :=
  ∀ t : Template, t.Valid → (q.apply (p.apply t)).Agrees (p.apply (q.apply t))

theorem Commutes.symm {p q : Pass} (h : p.Commutes q) : q.Commutes p := fun t hv => (h t hv).symm

variable {p q : Pass} {first second : Expression → List (String × Value)}

/-- Passes that set parameters commute if, whichever comes first, every name has the same last
value. -/
theorem commutes_of_settings
    (hp : ∀ t : Template, p.apply t = t.mapExpressions fun e => e.setAll (first e))
    (hq : ∀ t : Template, q.apply t = t.mapExpressions fun e => e.setAll (second e))
    (h : ∀ e : Expression, e.clash? = none →
      (Table.ofEntries (first e ++ second (e.setAll (first e)))).Agrees
        (Table.ofEntries (second e ++ first (e.setAll (second e))))) :
    p.Commutes q := by
  intro t hv
  rw [hp, hq, hq, hp, Template.mapExpressions_mapExpressions,
    Template.mapExpressions_mapExpressions]
  refine Template.agrees_mapExpressions fun e he => ?_
  rw [Function.comp_apply, Function.comp_apply, ← Expression.setAll_append,
    ← Expression.setAll_append]
  exact Expression.setAll_agrees (h e (hv e he)) e

/-- Overrides commute with a pass that gives values to the entries of one table. -/
theorem merge_commutes (overrides values : Table Value) {table : Expression → Table String}
    (htable : ∀ (e : Expression) values,
      table (e.setAll values) = (table e).without (values.map Prod.fst))
    (hq : ∀ t : Template, q.apply t =
      t.mapExpressions fun e => e.setAll (Template.fillings values (table e))) :
    (merge overrides).Commutes q := by
  refine commutes_of_settings (Template.merge_eq overrides) hq fun e _ => ?_
  rw [htable, Template.fillings_without, Expression.setAll_entity]
  set xs := Template.overridesOf overrides e.entity
  set ys := Template.fillings values (table e)
  have hapart : ∀ name ∈ Table.keys xs, name ∉ Table.keys (Table.without ys (Table.keys xs)) := by
    intro name hname hmem
    obtain ⟨y, hy, rfl⟩ := List.mem_map.1 hmem
    have hnot := (List.mem_filter.1 hy).2
    rw [Bool.not_eq_true', ← Bool.not_eq_true, List.contains_iff_mem] at hnot
    exact hnot hname
  -- an override takes the entry away before it gets a value, or overwrites the value
  exact (Table.agrees_append_comm hapart).trans (Table.agrees_overwritten xs ys)

theorem merge_commutes_resolve (overrides : Table Value) (strict : Bool) (fills : Table Value) :
    (merge overrides).Commutes (resolve strict fills) :=
  merge_commutes overrides fills Expression.setAll_holes (Template.fill_eq fills)

theorem merge_commutes_resolveAliases (overrides values : Table Value) :
    (merge overrides).Commutes (resolveAliases values) :=
  merge_commutes overrides values Expression.setAll_aliases (Template.resolveAliases_eq values)

/-- Fills and values for aliases commute, since no parameter waits for both. -/
theorem resolve_commutes_resolveAliases (strict : Bool) (fills values : Table Value) :
    (resolve strict fills).Commutes (resolveAliases values) := by
  refine @commutes_of_settings _ _ (fun e => Template.fillings fills e.holes)
    (fun e => Template.fillings values e.aliases) (Template.fill_eq fills)
    (Template.resolveAliases_eq values) fun e he => ?_
  obtain ⟨-, -, -, hdisjoint⟩ :=
    (Expression.names_nodup_iff e).1 ((Expression.clash?_eq_none_iff e).1 he)
  have hfills := Template.keys_fillings_subset fills e.holes
  have hvalues := Template.keys_fillings_subset values e.aliases
  have haliases : e.aliases.without ((Template.fillings fills e.holes).map Prod.fst) = e.aliases :=
    Table.without_of_disjoint fun name hname halias => hdisjoint name halias (hfills hname)
  have hholes : e.holes.without ((Template.fillings values e.aliases).map Prod.fst) = e.holes :=
    Table.without_of_disjoint fun name hname => hdisjoint name (hvalues hname)
  rw [Expression.setAll_aliases, Expression.setAll_holes, haliases, hholes]
  exact Table.agrees_append_comm fun name hname hmem =>
    hdisjoint name (hvalues hmem) (hfills hname)

end Pass

/-- **Passes of which any two commute may be made in any order.** -/
theorem Template.after_perm {passes passes' : List Pass} (hperm : passes.Perm passes')
    (hcommute : passes.Pairwise Pass.Commutes) {t : Template} (hv : t.Valid) :
    (t.after passes).Agrees (t.after passes') := by
  induction hperm generalizing t with
  | nil => exact .refl t
  | cons p _ ih => exact ih (List.pairwise_cons.1 hcommute).2 ((Pass.edits p t).valid hv)
  | swap p q passes =>
    -- the passes after the first two see templates that agree
    have hpair : q.Commutes p := (List.pairwise_cons.1 hcommute).1 p List.mem_cons_self
    exact (hpair t hv).after passes
  | trans hfirst _ ih ih' =>
    exact (ih hcommute hv).trans (ih' (hcommute.perm hfirst Pass.Commutes.symm) hv)

/-- **Overriding, filling and resolving aliases commute**: in whatever order the three passes are
made, the same template is left, up to the order of literal parameters. -/
theorem passes_commute {t : Template} (hv : t.Valid) (overrides fills values : Table Value)
    (strict : Bool) {passes passes' : List Pass}
    (h : passes.Perm [.merge overrides, .resolve strict fills, .resolveAliases values])
    (h' : passes'.Perm [.merge overrides, .resolve strict fills, .resolveAliases values]) :
    (t.after passes).Agrees (t.after passes') := by
  have hcommute : [Pass.merge overrides, .resolve strict fills, .resolveAliases values].Pairwise
      Pass.Commutes := by
    have hrest := Pass.resolve_commutes_resolveAliases strict fills values
    refine .cons ?_ (List.pairwise_pair.2 hrest)
    intro q hq
    rcases List.mem_cons.1 hq with rfl | hq
    · exact Pass.merge_commutes_resolve overrides strict fills
    · rw [List.mem_singleton.1 hq]
      exact Pass.merge_commutes_resolveAliases overrides values
  have hfirst := Template.after_perm h.symm hcommute hv
  have hsecond := Template.after_perm h'.symm hcommute hv
  exact hfirst.symm.trans hsecond

/-- An override for a hole of the server. -/
def serverOverrides : Table Value := [("server.name", .text "web")]

/-- Fills for two holes, one of which is overridden as well. -/
def serverFills : Table Value := [("name", .text "db"), ("size", .int 4)]

/-- A value for the alias. -/
def serverImages : Table Value := [("debian", .int 12)]

/-- The override counts, first or last, and only the order of parameters tells when it was made. -/
theorem passes_commute_openServer :
    let early := openServer.after [.merge serverOverrides, .resolve false serverFills,
      .resolveAliases serverImages]
    let late := openServer.after [.resolve false serverFills, .resolveAliases serverImages,
      .merge serverOverrides]
    openServer.Valid ∧ early.Agrees late ∧
    early.expressions.map (fun e => e.params.keys) = [["zone", "name", "size", "image"]] ∧
    late.expressions.map (fun e => e.params.keys) = [["zone", "size", "name", "image"]] ∧
    late.expressions.map (fun e => e.params.get? "name") = [some (.text "web")] := by
  intro early late
  have hv : ∀ e ∈ openServer.expressions, e.clash? = none := by decide
  have hlate := @List.perm_append_comm _ [Pass.resolve false serverFills,
    Pass.resolveAliases serverImages] [Pass.merge serverOverrides]
  exact ⟨hv, passes_commute hv serverOverrides serverFills serverImages false (.refl _) hlate,
    by decide, by decide, rfl⟩

end Provision
