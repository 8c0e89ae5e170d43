import Mathlib.Data.List.Forall2
import Provision.Proofs.Template.Names
import Provision.Template.Passes

/-!
# What passes can do to a template

Every pass makes parameters of expressions literal ones, one after the other, and leaves everything
else as it is. An expression is **edited** (`Expression.Edits`) by such steps; `Pass.edits` says
that each pass edits each expression, by which names and with which values. So whatever setting a
parameter keeps, all passes keep.

Holes and aliases are filled one by one. `Template.fill_eq`, `Template.unfilled_eq`,
`Template.resolveAliases_eq` and `Template.aliasesWithout_eq` say what these loops come to.
-/

namespace Provision

/-! ## Setting a parameter -/

namespace Expression

/-- Setting a parameter adds its name and takes none away. -/
theorem mem_names_set {e : Expression} {name other : String} {v : Value} :
    other ∈ (e.set name v).names ↔ other = name ∨ other ∈ e.names := by
  unfold names set
  simp only [List.mem_append, Table.mem_keys_set, Table.mem_keys_erase]
  by_cases h : other = name
  · simp [h]
  · simp [h]

/-- **Setting a parameter keeps names apart**: it takes the name out of the other three tables. -/
theorem clash?_set {e : Expression} (h : e.clash? = none) (name : String) (v : Value) :
    (e.set name v).clash? = none := by
  rw [clash?_eq_none_iff, names_nodup_iff] at h ⊢
  obtain ⟨⟨hp, hr, ha, hh⟩, hparams, hrefs, haliases⟩ := h
  unfold set
  simp only [Table.mem_keys_set, Table.mem_keys_erase]
  refine ⟨⟨hp.set name v, hr.erase name, ha.erase name, hh.erase name⟩, ?_, ?_, ?_⟩
  · rintro other (rfl | hother)
    · exact ⟨fun h => h.2 rfl, fun h => h.2 rfl, fun h => h.2 rfl⟩
    · obtain ⟨h₁, h₂, h₃⟩ := hparams other hother
      exact ⟨fun h => h₁ h.1, fun h => h₂ h.1, fun h => h₃ h.1⟩
  · rintro other ⟨hother, -⟩
    obtain ⟨h₁, h₂⟩ := hrefs other hother
    exact ⟨fun h => h₁ h.1, fun h => h₂ h.1⟩
  · rintro other ⟨hother, -⟩
    exact fun h => haliases other hother h.1

/-! ## Edits -/

/-- An expression after some of its parameters were made literal ones, one after the other: by a
name that it has or that is a `new` one, and with a value that is `given`. -/
inductive Edits (new : String → Prop) (given : Value → Prop) (e : Expression) : Expression → Prop
  | none : Edits new given e e
  | set {e' : Expression} {name : String} {v : Value} (h : Edits new given e e')
      (hname : new name ∨ name ∈ e'.names) (hv : given v) : Edits new given e (e'.set name v)

variable {new : String → Prop} {given : Value → Prop} {e e' e'' : Expression}

theorem Edits.trans (h : e.Edits new given e') (h' : e'.Edits new given e'') :
    e.Edits new given e'' := by
  induction h' with
  | none => exact h
  | set _ hname hv ih => exact ih.set hname hv

/-- Edits take no name away. -/
theorem Edits.mem_names (h : e.Edits new given e') {name : String} (hname : name ∈ e.names) :
    name ∈ e'.names := by
  induction h with
  | none => exact hname
  | set _ _ _ ih => exact mem_names_set.2 (Or.inr ih)

/-- Setting several parameters of an expression edits it. -/
theorem edits_setAll {values : List (String × Value)}
    (h : ∀ x ∈ values, (new x.1 ∨ x.1 ∈ e.names) ∧ given x.2) :
    e.Edits new given (e.setAll values) := by
  induction values generalizing e with
  | nil => exact .none
  | cons x values ih =>
    obtain ⟨⟨hname, hv⟩, hrest⟩ := List.forall_mem_cons.1 h
    have hfirst : e.Edits new given (e.set x.1 x.2) := Edits.none.set hname hv
    refine hfirst.trans (ih fun y hy => ?_)
    obtain ⟨hy, hyv⟩ := hrest y hy
    exact ⟨hy.imp_right hfirst.mem_names, hyv⟩

end Expression

/-! ## Statements and templates -/

section Templates

variable {new : String → Prop} {given : Value → Prop}

/-- A statement with its expression edited, and nothing else. -/
def Statement.Edits (new : String → Prop) (given : Value → Prop) (s s' : Statement) : Prop :=
  ∃ e, s.expression.Edits new given e ∧ s' = s.mapExpression fun _ => e

@[simp] theorem Statement.expression_mapExpression (f : Expression → Expression) (s : Statement) :
    (s.mapExpression f).expression = f s.expression := by
  unfold Statement.expression Statement.mapExpression
  cases s.node with
  | expression e => rfl
  | declaration left right => rfl

@[simp] theorem Statement.identifier?_mapExpression (f : Expression → Expression) (s : Statement) :
    (s.mapExpression f).identifier? = s.identifier? := by
  unfold Statement.identifier? Statement.mapExpression
  cases s.node with
  | expression e => rfl
  | declaration left right => rfl

/-- Changing an expression by a function, or putting in what the function gives. -/
theorem Statement.mapExpression_const (f : Expression → Expression) (s : Statement) :
    (s.mapExpression fun _ => f s.expression) = s.mapExpression f := by
  unfold Statement.expression Statement.mapExpression
  cases s.node with
  | expression e => rfl
  | declaration left right => rfl

theorem Statement.mapExpression_congr {f g : Expression → Expression} {s : Statement}
    (h : f s.expression = g s.expression) : s.mapExpression f = s.mapExpression g := by
  rw [← Statement.mapExpression_const, h, Statement.mapExpression_const]

theorem Statement.mapExpression_self {f : Expression → Expression} {s : Statement}
    (h : f s.expression = s.expression) : s.mapExpression f = s := by
  rw [← Statement.mapExpression_const, h]
  obtain ⟨node, line, outcome⟩ := s
  cases node with
  | expression e => rfl
  | declaration left right => rfl

theorem Statement.mapExpression_mapExpression (f g : Expression → Expression) (s : Statement) :
    (s.mapExpression f).mapExpression g = s.mapExpression (g ∘ f) := by
  unfold Statement.mapExpression
  cases s.node with
  | expression e => rfl
  | declaration left right => rfl

theorem Statement.edits_mapExpression {s : Statement} {f : Expression → Expression}
    (h : s.expression.Edits new given (f s.expression)) : s.Edits new given (s.mapExpression f) :=
  ⟨f s.expression, h, (Statement.mapExpression_const f s).symm⟩

theorem Statement.Edits.refl (s : Statement) : s.Edits new given s :=
  ⟨s.expression, .none, (Statement.mapExpression_self rfl).symm⟩

theorem Statement.Edits.trans {s s' s'' : Statement} (h : s.Edits new given s')
    (h' : s'.Edits new given s'') : s.Edits new given s'' := by
  obtain ⟨e, he, rfl⟩ := h
  obtain ⟨e', he', rfl⟩ := h'
  rw [Statement.expression_mapExpression] at he'
  exact ⟨e', he.trans he', Statement.mapExpression_mapExpression _ _ s⟩

theorem forall₂_trans {α : Type} {related : α → α → Prop} {as bs cs : List α}
    (h : List.Forall₂ related as bs) (h' : List.Forall₂ related bs cs)
    (htrans : ∀ a b c, related a b → related b c → related a c) :
    List.Forall₂ related as cs := by
  induction h generalizing cs with
  | nil => exact h'
  | cons hfirst _ ih =>
    cases h' with
    | cons hfirst' hrest' => exact .cons (htrans _ _ _ hfirst hfirst') (ih hrest')

/-- A template with its expressions edited, and nothing else. -/
def Template.Edits (new : String → Prop) (given : Value → Prop) (t t' : Template) : Prop :=
  List.Forall₂ (Statement.Edits new given) t.statements t'.statements

theorem Template.Edits.refl (t : Template) : t.Edits new given t :=
  List.forall₂_same.2 fun s _ => .refl s

theorem Template.Edits.trans {t t' t'' : Template} (h : t.Edits new given t')
    (h' : t'.Edits new given t'') : t.Edits new given t'' :=
  forall₂_trans h h' fun _ _ _ => Statement.Edits.trans

theorem Template.edits_mapExpressions {t : Template} {f : Expression → Expression}
    (h : ∀ e ∈ t.expressions, e.Edits new given (f e)) :
    t.Edits new given (t.mapExpressions f) := by
  refine List.forall₂_map_right_iff.2 (List.forall₂_same.2 fun s hs => ?_)
  exact Statement.edits_mapExpression (h _ (List.mem_map_of_mem hs))

end Templates

/-! ## Holes and aliases -/

namespace Template

/-- The parameters that have a value for their hole or alias, with the values. -/
def fillings (fills : Table Value) (holes : Table String) : List (String × Value) :=
  holes.filterMap fun (param, hole) => (fills.get? hole).map fun v => (param, v)

section Entries

variable {fills : Table Value} {param hole : String}

theorem fillings_cons_some {v : Value} (h : fills.get? hole = some v) (holes : Table String) :
    fillings fills ((param, hole) :: holes) = (param, v) :: fillings fills holes :=
  List.filterMap_cons_some (by simp only [h, Option.map_some])

theorem fillings_cons_none (h : fills.get? hole = none) (holes : Table String) :
    fillings fills ((param, hole) :: holes) = fillings fills holes :=
  List.filterMap_cons_none (by simp only [h, Option.map_none])

end Entries

/-- The loop over the holes of one expression sets all that have a fill, and collects the others. -/
theorem fillHoles_eq (fills : Table Value) (statement : ℕ) (holes : List (String × String))
    (e : Expression) (left : List OpenHole) :
    fillHoles fills statement holes e left = (e.setAll (fillings fills holes),
      left ++ (holes.map fun x => OpenHole.mk statement x.1 x.2).filter
        fun o => !fills.has o.hole) := by
  induction holes generalizing e left with
  | nil => rw [fillHoles, List.map_nil, List.filter_nil, List.append_nil]; rfl
  | cons x holes ih =>
    obtain ⟨param, hole⟩ := x
    rw [fillHoles, List.map_cons]
    cases hfill : fills.get? hole with
    | some v =>
      rw [fillings_cons_some hfill,
        List.filter_cons_of_neg (by simp [Table.has, hfill])]
      exact ih (e.set param v) left
    | none =>
      rw [fillings_cons_none hfill,
        List.filter_cons_of_pos (by simp [Table.has, hfill])]
      show fillHoles fills statement holes e (left ++ [⟨statement, param, hole⟩]) = _
      rw [ih, List.append_assoc]
      rfl

/-- The loop over statements, the first of which has position `i`. -/
theorem fillStatements_eq (fills : Table Value) (i : ℕ) (ss : List Statement)
    (left : List OpenHole) :
    fillStatements fills i ss left =
      (ss.map (Statement.mapExpression fun e => e.setAll (fillings fills e.holes)),
        left ++ ((ss.zipIdx i).flatMap fun (s, i) =>
          s.expression.holes.map fun (p, h) => OpenHole.mk i p h).filter
            fun o => !fills.has o.hole) := by
  induction ss generalizing i left with
  | nil => rw [fillStatements, List.zipIdx_nil, List.flatMap_nil, List.filter_nil,
      List.append_nil, List.map_nil]
  | cons s ss ih =>
    rw [fillStatements, fillHoles_eq]
    simp only [ih]
    rw [Statement.mapExpression_const (fun e => e.setAll (fillings fills e.holes)),
      List.zipIdx_cons, List.flatMap_cons, List.filter_append, List.append_assoc, List.map_cons]

/-- **Filling sets each parameter that has a fill for its hole.** -/
theorem fill_eq (fills : Table Value) (t : Template) :
    t.fill fills = t.mapExpressions fun e => e.setAll (fillings fills e.holes) := by
  unfold fill fillAll
  rw [fillStatements_eq]
  rfl

/-- **The holes without a fill are left**, in the order of the template. -/
theorem unfilled_eq (fills : Table Value) (t : Template) :
    t.unfilled fills = t.openHoles.filter fun o => !fills.has o.hole := by
  unfold unfilled fillAll
  rw [fillStatements_eq, List.nil_append]
  rfl

/-- **What a fill comes to**: a strict one refuses the holes that are left. -/
theorem resolve_eq (strict : Bool) (fills : Table Value) (t : Template) :
    t.resolve strict fills = (t.fill fills, if strict && !(t.unfilled fills).isEmpty then
      .error ⟨t.unfilled fills⟩ else .ok (t.unfilled fills)) := rfl

/-- Adds a name that is not there. -/
def addMissing (missing : List String) (name : String) : List String :=
  if missing.contains name then missing else missing ++ [name]

theorem resolveAliasesIn_eq (values : Table Value) (aliases : List (String × String))
    (e : Expression) (missing : List String) :
    resolveAliasesIn values aliases e missing = (e.setAll (fillings values aliases),
      ((aliases.map Prod.snd).filter fun name => !values.has name).foldl addMissing missing) := by
  induction aliases generalizing e missing with
  | nil => rfl
  | cons x aliases ih =>
    obtain ⟨param, name⟩ := x
    rw [resolveAliasesIn, List.map_cons]
    cases hvalue : values.get? name with
    | some v =>
      rw [fillings_cons_some hvalue,
        List.filter_cons_of_neg (by simp [Table.has, hvalue])]
      exact ih (e.set param v) missing
    | none =>
      rw [fillings_cons_none hvalue,
        List.filter_cons_of_pos (by simp [Table.has, hvalue])]
      exact ih e (addMissing missing name)

theorem resolveAliasesAll_eq (values : Table Value) (ss : List Statement)
    (missing : List String) :
    resolveAliasesAll values ss missing =
      (ss.map (Statement.mapExpression fun e => e.setAll (fillings values e.aliases)),
        (ss.flatMap fun s => s.expression.aliases.values.filter
          fun name => !values.has name).foldl addMissing missing) := by
  induction ss generalizing missing with
  | nil => rfl
  | cons s ss ih =>
    rw [resolveAliasesAll, resolveAliasesIn_eq]
    simp only [ih]
    rw [Statement.mapExpression_const (fun e => e.setAll (fillings values e.aliases)),
      List.flatMap_cons, List.foldl_append, List.map_cons]
    rfl

/-- **Resolving aliases sets each parameter that has a value for its alias.** -/
theorem resolveAliases_eq (values : Table Value) (t : Template) :
    t.resolveAliases values = t.mapExpressions fun e => e.setAll (fillings values e.aliases) := by
  unfold resolveAliases
  rw [resolveAliasesAll_eq]
  rfl

/-- **The aliases without a value are missing**, each once, in the order of first occurrence. -/
theorem aliasesWithout_eq (values : Table Value) (t : Template) :
    t.aliasesWithout values = Text.distinct (t.expressions.flatMap fun e =>
      e.aliases.values.filter fun name => !values.has name) := by
  unfold aliasesWithout
  rw [resolveAliasesAll_eq, expressions, List.flatMap_map]
  rfl

end Template

/-! ## Passes -/

/-- A pass over a template, with all that it is given. -/
inductive Pass : Type 1 where
  | set (index : ℕ) (name : String) (value : Value)
  | merge (overrides : Table Value)
  | resolve (strict : Bool) (fills : Table Value)
  | ask {σ ε : Type} (asker : Template.Asker σ ε) (state : σ)
  | resolveAliases (values : Table Value)

namespace Pass

/-- The template after a pass, whether the pass complained or not. -/
def apply : Pass → Template → Template
  | .set index name value, t => t.modifyAt index fun e => e.set name value
  | .merge overrides, t => t.merge overrides
  | .resolve strict fills, t => (t.resolve strict fills).1
  | .ask asker state, t => (t.ask asker state).1
  | .resolveAliases values, t => t.resolveAliases values

/-- The names that a pass can give to parameters of its own accord. -/
def New : Pass → String → Prop
  | .set _ name _ => fun n => n = name
  | .merge overrides => fun n =>
    ∃ key ∈ overrides.keys, ∃ entity, Template.overrideTarget? key = some (entity, n)
  | _ => fun _ => False

/-- The values that a pass can give to parameters. -/
def Given : Pass → Value → Prop
  | .set _ _ value => fun v => v = value
  | .merge overrides => fun v => v ∈ overrides.values
  | .resolve _ fills => fun v => v ∈ fills.values
  | .ask asker _ => fun v => ∃ hole state, (asker hole state).1 = .ok v
  | .resolveAliases values => fun v => v ∈ values.values

theorem mem_values_of_get? {t : Table Value} {key : String} {v : Value} (h : t.get? key = some v) :
    v ∈ t.values :=
  List.mem_map_of_mem (Table.mem_of_get? h)

/-- What is filled in has the name of a parameter and one of the given values. -/
theorem mem_fillings {fills : Table Value} {holes : Table String} {x : String × Value}
    (h : x ∈ Template.fillings fills holes) : x.1 ∈ holes.keys ∧ x.2 ∈ fills.values := by
  obtain ⟨⟨param, hole⟩, hmem, hfill⟩ := List.mem_filterMap.1 h
  obtain ⟨v, hv, rfl⟩ := Option.map_eq_some_iff.1 hfill
  exact ⟨List.mem_map_of_mem hmem, mem_values_of_get? hv⟩

theorem edits_merge (overrides : Table Value) (t : Template) :
    t.Edits (New (.merge overrides)) (Given (.merge overrides)) (t.merge overrides) := by
  -- some of the overrides, since the names and values are those of all of them
  have hprefix : ∀ (some : Table Value), (∀ o ∈ some, o ∈ overrides) → ∀ t : Template,
      t.Edits (New (.merge overrides)) (Given (.merge overrides)) (t.merge some) := by
    intro some
    induction some with
    | nil => exact fun _ t => .refl t
    | cons o some ih =>
      intro hmem t
      obtain ⟨ho, hrest⟩ := List.forall_mem_cons.1 hmem
      refine Template.Edits.trans (Template.edits_mapExpressions fun e _ => ?_) (ih hrest _)
      unfold Template.override
      split
      · rename_i entity param htarget
        split
        · exact Expression.Edits.none.set
            (Or.inl ⟨o.1, List.mem_map_of_mem ho, entity, htarget⟩) (List.mem_map_of_mem ho)
        · exact .none
      · exact .none
  exact hprefix overrides (fun _ h => h) t

theorem edits_askHoles {σ ε : Type} {asker : Template.Asker σ ε} (holes : List (String × String))
    (e : Expression) (a : Template.Asking σ ε) (h : ∀ x ∈ holes, x.1 ∈ e.names) :
    e.Edits (fun _ => False) (fun v => ∃ hole state, (asker hole state).1 = .ok v)
      (Template.askHoles asker holes e a).1 := by
  induction holes generalizing e a with
  | nil => exact .none
  | cons x holes ih =>
    obtain ⟨param, hole⟩ := x
    obtain ⟨hparam, hrest⟩ := List.forall_mem_cons.1 h
    unfold Template.askHoles
    split
    · rename_i v state hanswer
      have hset : e.Edits (fun _ => False) (fun v => ∃ hole state, (asker hole state).1 = .ok v)
          (e.set param v) :=
        Expression.Edits.none.set (Or.inr hparam) ⟨hole, a.state, by rw [hanswer]⟩
      exact hset.trans (ih _ _ fun y hy => hset.mem_names (hrest y hy))
    · exact .none

theorem edits_askStatements {σ ε : Type} {asker : Template.Asker σ ε} (ss : List Statement)
    (a : Template.Asking σ ε) :
    List.Forall₂ (Statement.Edits (fun _ => False)
      fun v => ∃ hole state, (asker hole state).1 = .ok v) ss
      (Template.askStatements asker ss a).1 := by
  induction ss generalizing a with
  | nil => exact .nil
  | cons s ss ih =>
    have hnames : ∀ x ∈ s.expression.holes, x.1 ∈ s.expression.names := fun x hx =>
      List.mem_append_right _ (List.mem_map_of_mem hx)
    have hfirst : s.Edits (fun _ => False) (fun v => ∃ hole state, (asker hole state).1 = .ok v)
        (s.mapExpression fun _ => (Template.askHoles asker s.expression.holes s.expression a).1) :=
      ⟨_, edits_askHoles _ _ a hnames, rfl⟩
    unfold Template.askStatements
    simp only
    split
    · -- the questioner gave up, so the statements after this one stay as they are
      exact .cons hfirst (List.forall₂_same.2 fun s _ => .refl s)
    · exact .cons hfirst (ih _)

theorem edits_modify {new : String → Prop} {given : Value → Prop} {f : Expression → Expression}
    (h : ∀ e : Expression, e.Edits new given (f e)) (ss : List Statement) (index : ℕ) :
    List.Forall₂ (Statement.Edits new given) ss (ss.modify index (Statement.mapExpression f)) := by
  induction ss generalizing index with
  | nil =>
    rw [List.modify_nil]
    exact .nil
  | cons s ss ih =>
    cases index with
    | zero =>
      rw [List.modify_zero_cons]
      exact .cons (Statement.edits_mapExpression (h _)) (List.forall₂_same.2 fun s _ => .refl s)
    | succ index =>
      rw [List.modify_succ_cons]
      exact .cons (.refl s) (ih index)

/-- **A pass edits each expression** and changes nothing else. -/
theorem edits (p : Pass) (t : Template) : t.Edits p.New p.Given (p.apply t) := by
  cases p with
  | set index name value =>
    have hset : ∀ e : Expression,
        e.Edits (New (.set index name value)) (Given (.set index name value)) (e.set name value) :=
      fun e => Expression.Edits.none.set (Or.inl rfl) rfl
    exact edits_modify hset t.statements index
  | merge overrides => exact edits_merge overrides t
  | resolve strict fills =>
    show t.Edits _ _ (t.fill fills)
    rw [Template.fill_eq]
    refine Template.edits_mapExpressions fun e _ => Expression.edits_setAll fun x hx => ?_
    obtain ⟨hname, hv⟩ := mem_fillings hx
    exact ⟨Or.inr (List.mem_append_right _ hname), hv⟩
  | ask asker state => exact edits_askStatements t.statements _
  | resolveAliases values =>
    show t.Edits _ _ (t.resolveAliases values)
    rw [Template.resolveAliases_eq]
    refine Template.edits_mapExpressions fun e _ => Expression.edits_setAll fun x hx => ?_
    obtain ⟨hname, hv⟩ := mem_fillings hx
    exact ⟨Or.inr (List.mem_append_left _ (List.mem_append_right _ hname)), hv⟩

end Pass

/-- The template after passes, one after the other. -/
def Template.after (t : Template) (passes : List Pass) : Template :=
  passes.foldl (fun t p => p.apply t) t

end Provision
