import Provision.Proofs.Template.Questions

/-!
# Templates that agree up to the order of literal parameters

Passes can set the same parameters in different orders, and then the tables of literal parameters
list them differently. Two tables **agree** (`Table.Agrees`) if they give every name the same value;
two templates agree if the literal parameters of their expressions agree and all else is equal.

* `Expression.setAll_agrees`: of several settings only the last one of each name counts.
* `Template.Agrees.apply`: no pass can tell templates apart that agree.
-/

namespace Provision

/-! ## Tables -/

namespace Table

universe u

variable {α : Type u} {t t' t'' : Table α}

/-- Two tables that are the same mapping, whatever the order of their keys. -/
def Agrees (t t' : Table α) : Prop := ∀ key, t.get? key = t'.get? key

theorem Agrees.refl (t : Table α) : t.Agrees t := fun _ => rfl

theorem Agrees.symm (h : t.Agrees t') : t'.Agrees t := fun key => (h key).symm

theorem Agrees.trans (h : t.Agrees t') (h' : t'.Agrees t'') : t.Agrees t'' := fun key =>
  (h key).trans (h' key)

theorem Agrees.mem_keys (h : t.Agrees t') (key : String) : key ∈ t.keys ↔ key ∈ t'.keys := by
  rw [← has_iff_mem_keys, ← has_iff_mem_keys, has, has, h key]

theorem Agrees.set (h : t.Agrees t') (key : String) (v : α) :
    (t.set key v).Agrees (t'.set key v) := by
  intro other
  rw [get?_set, get?_set, h other]

theorem get?_ofEntries_append (xs ys : List (String × α)) (key : String) :
    (ofEntries (xs ++ ys)).get? key =
      ((ofEntries ys).get? key).or ((ofEntries xs).get? key) := by
  have happend : ofEntries (xs ++ ys) = (ofEntries xs).update ys := List.foldl_append
  rw [happend, get?_update]

theorem get?_ofEntries_of_not_mem {xs : List (String × α)} {key : String} (h : key ∉ keys xs) :
    (ofEntries xs).get? key = none := by
  rw [get?_eq_none_iff, mem_keys_ofEntries]
  exact h

/-- Entries with different keys may change places. -/
theorem agrees_append_comm {xs ys : List (String × α)} (h : ∀ key ∈ keys xs, key ∉ keys ys) :
    (ofEntries (xs ++ ys)).Agrees (ofEntries (ys ++ xs)) := by
  intro key
  rw [get?_ofEntries_append, get?_ofEntries_append]
  by_cases hkey : key ∈ keys xs
  · rw [get?_ofEntries_of_not_mem (h key hkey), Option.none_or, Option.or_none]
  · rw [get?_ofEntries_of_not_mem hkey, Option.none_or, Option.or_none]

theorem get?_ofEntries_without {names : List String} {key : String} (h : key ∉ names)
    (xs : List (String × α)) :
    (ofEntries (without xs names)).get? key = (ofEntries xs).get? key := by
  induction xs using List.reverseRecOn with
  | nil => rfl
  | append_singleton xs e ih =>
    have happend : without (xs ++ [e]) names = without xs names ++ without [e] names :=
      List.filter_append _ _
    rw [happend, get?_ofEntries_append, get?_ofEntries_append, ih]
    by_cases he : e.1 ∈ names
    · -- the entry is left out, and its key is another one
      have hnot : key ∉ keys [e] := by
        intro hmem
        rw [List.mem_singleton.1 hmem] at h
        exact h he
      have hout : without [e] names = [] := by simp [without, he]
      rw [hout, get?_ofEntries_of_not_mem hnot]
      rfl
    · have hin : without [e] names = [e] := by simp [without, he]
      rw [hin]

/-- Entries that are overwritten later may be left out. -/
theorem agrees_overwritten (xs ys : List (String × α)) :
    (ofEntries (without ys (keys xs) ++ xs)).Agrees (ofEntries (ys ++ xs)) := by
  intro key
  rw [get?_ofEntries_append, get?_ofEntries_append]
  by_cases hkey : key ∈ keys xs
  · obtain ⟨v, hv⟩ : ∃ v, (ofEntries xs).get? key = some v := by
      rw [← Option.isSome_iff_exists]
      exact (has_iff_mem_keys _ _).2 (mem_keys_ofEntries.2 hkey)
    rw [hv, Option.some_or, Option.some_or]
  · rw [get?_ofEntries_without hkey]

theorem without_congr {names names' : List String} (h : ∀ name, name ∈ names ↔ name ∈ names')
    (t : Table α) : t.without names = t.without names' := by
  refine List.filter_congr fun e _ => ?_
  rw [Bool.eq_iff_iff, Bool.not_eq_true', Bool.not_eq_true', ← Bool.not_eq_true,
    ← Bool.not_eq_true, List.contains_iff_mem, List.contains_iff_mem, h]

end Table

/-! ## Expressions -/

/-- Two expressions that differ at most in the order of their literal parameters. -/
structure Expression.Agrees (e e' : Expression) : Prop where
  action : e.action = e'.action
  entity : e.entity = e'.entity
  params : e.params.Agrees e'.params
  refs : e.refs = e'.refs
  aliases : e.aliases = e'.aliases
  holes : e.holes = e'.holes

namespace Expression

variable {e e' e'' : Expression}

theorem Agrees.refl (e : Expression) : e.Agrees e :=
  ⟨rfl, rfl, .refl _, rfl, rfl, rfl⟩

theorem Agrees.symm (h : e.Agrees e') : e'.Agrees e :=
  ⟨h.action.symm, h.entity.symm, h.params.symm, h.refs.symm, h.aliases.symm, h.holes.symm⟩

theorem Agrees.trans (h : e.Agrees e') (h' : e'.Agrees e'') : e.Agrees e'' :=
  ⟨h.action.trans h'.action, h.entity.trans h'.entity, h.params.trans h'.params,
    h.refs.trans h'.refs, h.aliases.trans h'.aliases, h.holes.trans h'.holes⟩

theorem Agrees.set (h : e.Agrees e') (name : String) (v : Value) :
    (e.set name v).Agrees (e'.set name v) where
  action := h.action
  entity := h.entity
  params := h.params.set name v
  refs := congrArg (Table.erase · name) h.refs
  aliases := congrArg (Table.erase · name) h.aliases
  holes := congrArg (Table.erase · name) h.holes

theorem Agrees.setAll (h : e.Agrees e') (values : List (String × Value)) :
    (e.setAll values).Agrees (e'.setAll values) := by
  induction values generalizing e e' with
  | nil => exact h
  | cons x values ih => exact ih (h.set x.1 x.2)

/-- **Of several settings only the last one of each name counts.** -/
theorem setAll_agrees {xs ys : List (String × Value)}
    (h : (Table.ofEntries xs).Agrees (Table.ofEntries ys)) (e : Expression) :
    (e.setAll xs).Agrees (e.setAll ys) := by
  have hnames : ∀ name, name ∈ xs.map Prod.fst ↔ name ∈ ys.map Prod.fst := by
    intro name
    have hkeys := h.mem_keys name
    rw [Table.mem_keys_ofEntries, Table.mem_keys_ofEntries] at hkeys
    exact hkeys
  have hparams : (e.params.update xs).Agrees (e.params.update ys) := by
    intro key
    rw [Table.get?_update, Table.get?_update, h key]
  rw [setAll_eq, setAll_eq]
  exact ⟨rfl, rfl, hparams, Table.without_congr hnames _, Table.without_congr hnames _,
    Table.without_congr hnames _⟩

theorem setAll_append (e : Expression) (xs ys : List (String × Value)) :
    e.setAll (xs ++ ys) = (e.setAll xs).setAll ys :=
  List.foldl_append

end Expression

/-! ## Templates -/

/-- Two statements whose expressions agree, and which are equal otherwise. -/
def Statement.Agrees (s s' : Statement) : Prop :=
  ∃ e, s.expression.Agrees e ∧ s' = s.mapExpression fun _ => e

/-- Two templates whose statements agree, one by one. -/
def Template.Agrees (t t' : Template) : Prop :=
  List.Forall₂ Statement.Agrees t.statements t'.statements

section Templates

variable {s s' s'' : Statement} {t t' t'' : Template}

theorem Statement.Agrees.expression (h : s.Agrees s') : s.expression.Agrees s'.expression := by
  obtain ⟨e, he, rfl⟩ := h
  rw [Statement.expression_mapExpression]
  exact he

theorem Statement.Agrees.refl (s : Statement) : s.Agrees s :=
  ⟨s.expression, .refl _, (Statement.mapExpression_self rfl).symm⟩

theorem Statement.agrees_mapExpression {f g : Expression → Expression}
    (h : (f s.expression).Agrees (g s.expression)) :
    (s.mapExpression f).Agrees (s.mapExpression g) := by
  refine ⟨g s.expression, ?_, ?_⟩
  · rw [Statement.expression_mapExpression]
    exact h
  · rw [Statement.mapExpression_mapExpression]
    exact (Statement.mapExpression_const g s).symm

theorem Statement.Agrees.symm (h : s.Agrees s') : s'.Agrees s := by
  obtain ⟨e, he, rfl⟩ := h
  refine ⟨s.expression, ?_, ?_⟩
  · rw [Statement.expression_mapExpression]
    exact he.symm
  · rw [Statement.mapExpression_mapExpression]
    exact (Statement.mapExpression_self rfl).symm

theorem Statement.Agrees.trans (h : s.Agrees s') (h' : s'.Agrees s'') : s.Agrees s'' := by
  obtain ⟨e, he, rfl⟩ := h
  obtain ⟨e', he', rfl⟩ := h'
  rw [Statement.expression_mapExpression] at he'
  exact ⟨e', he.trans he', Statement.mapExpression_mapExpression _ _ s⟩

theorem Statement.Agrees.mapExpression (h : s.Agrees s') {f : Expression → Expression}
    (hf : ∀ e e', e.Agrees e' → (f e).Agrees (f e')) :
    (s.mapExpression f).Agrees (s'.mapExpression f) := by
  obtain ⟨e, he, rfl⟩ := h
  rw [Statement.mapExpression_mapExpression]
  exact Statement.agrees_mapExpression (hf _ _ he)

theorem Template.Agrees.refl (t : Template) : t.Agrees t :=
  List.forall₂_same.2 fun s _ => .refl s

theorem Template.Agrees.symm (h : t.Agrees t') : t'.Agrees t :=
  (h.imp fun _ _ h => h.symm).flip

theorem Template.Agrees.trans (h : t.Agrees t') (h' : t'.Agrees t'') : t.Agrees t'' :=
  forall₂_trans h h' fun _ _ _ => Statement.Agrees.trans

theorem Template.agrees_mapExpressions {f g : Expression → Expression}
    (h : ∀ e ∈ t.expressions, (f e).Agrees (g e)) :
    (t.mapExpressions f).Agrees (t.mapExpressions g) := by
  refine List.forall₂_map_left_iff.2 (List.forall₂_map_right_iff.2 (List.forall₂_same.2 ?_))
  exact fun s hs => Statement.agrees_mapExpression (h _ (List.mem_map_of_mem hs))

theorem Template.Agrees.mapExpressions (h : t.Agrees t') {f : Expression → Expression}
    (hf : ∀ e e', e.Agrees e' → (f e).Agrees (f e')) :
    (t.mapExpressions f).Agrees (t'.mapExpressions f) :=
  List.forall₂_map_left_iff.2 (List.forall₂_map_right_iff.2 (h.imp fun _ _ h => h.mapExpression hf))

theorem Template.mapExpressions_mapExpressions (f g : Expression → Expression) (t : Template) :
    (t.mapExpressions f).mapExpressions g = t.mapExpressions (g ∘ f) := by
  unfold Template.mapExpressions
  rw [List.map_map]
  exact congrArg _ (List.map_congr_left fun s _ => Statement.mapExpression_mapExpression f g s)

/-! ## Passes -/

/-- Templates that agree have the same holes. -/
theorem Template.Agrees.openHoles (h : t.Agrees t') : t.openHoles = t'.openHoles := by
  have hfrom : ∀ {ss ss' : List Statement}, List.Forall₂ Statement.Agrees ss ss' →
      ∀ n, openHolesFrom n ss = openHolesFrom n ss' := by
    intro ss ss' hss
    induction hss with
    | nil => exact fun _ => rfl
    | cons hfirst _ ih =>
      intro n
      rw [openHolesFrom_cons, openHolesFrom_cons, ih, numberedHoles, numberedHoles,
        hfirst.expression.holes]
  exact hfrom h 0

theorem Template.agrees_putAnswers {ss ss' : List Statement}
    (h : List.Forall₂ Statement.Agrees ss ss') (values : List Value) :
    List.Forall₂ Statement.Agrees (putAnswers ss values) (putAnswers ss' values) := by
  induction h generalizing values with
  | nil => exact .nil
  | cons hfirst _ ih =>
    rw [putAnswers, putAnswers, hfirst.expression.holes]
    refine .cons (hfirst.mapExpression fun e e' he => ?_) (ih _)
    rw [he.holes]
    exact he.setAll _

theorem Template.agrees_modify {ss ss' : List Statement}
    (h : List.Forall₂ Statement.Agrees ss ss') {f : Expression → Expression}
    (hf : ∀ e e', e.Agrees e' → (f e).Agrees (f e')) (index : ℕ) :
    List.Forall₂ Statement.Agrees (ss.modify index (Statement.mapExpression f))
      (ss'.modify index (Statement.mapExpression f)) := by
  induction h generalizing index with
  | nil =>
    rw [List.modify_nil]
    exact .nil
  | cons hfirst hrest ih =>
    cases index with
    | zero =>
      rw [List.modify_zero_cons, List.modify_zero_cons]
      exact .cons (hfirst.mapExpression hf) hrest
    | succ index =>
      rw [List.modify_succ_cons, List.modify_succ_cons]
      exact .cons hfirst (ih index)

theorem Template.Agrees.merge (h : t.Agrees t') (overrides : Table Value) :
    (t.merge overrides).Agrees (t'.merge overrides) := by
  induction overrides generalizing t t' with
  | nil => exact h
  | cons o overrides ih =>
    refine ih (h.mapExpressions fun e e' he => ?_)
    unfold override
    split
    · rw [he.entity]
      split
      · exact he.set _ _
      · exact he
    · exact he

/-- **No pass can tell templates apart that agree**: whatever it does to one of them, it does to the
other. -/
theorem Template.Agrees.apply (h : t.Agrees t') (p : Pass) : (p.apply t).Agrees (p.apply t') := by
  cases p with
  | set index name value => exact agrees_modify h (fun _ _ he => he.set name value) index
  | merge overrides => exact h.merge overrides
  | resolve strict fills =>
    show (t.fill fills).Agrees (t'.fill fills)
    rw [fill_eq, fill_eq]
    refine h.mapExpressions fun e e' he => ?_
    rw [he.holes]
    exact he.setAll _
  | ask asker state =>
    -- the questions are the same, so the answers are
    have hask : (t.ask asker state).1.Agrees (t'.ask asker state).1 := by
      rw [ask_eq, ask_eq, h.openHoles]
      exact agrees_putAnswers h _
    exact hask
  | resolveAliases values =>
    show (t.resolveAliases values).Agrees (t'.resolveAliases values)
    rw [resolveAliases_eq, resolveAliases_eq]
    refine h.mapExpressions fun e e' he => ?_
    rw [he.aliases]
    exact he.setAll _

theorem Template.Agrees.after (h : t.Agrees t') (passes : List Pass) :
    (t.after passes).Agrees (t'.after passes) := by
  induction passes generalizing t t' with
  | nil => exact h
  | cons p passes ih => exact ih (h.apply p)

end Templates

end Provision
