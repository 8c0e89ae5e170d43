import Mathlib.Data.List.Induction
import Provision.Proofs.Template.Holes
import Provision.Proofs.Text.Order

/-!
# Collected aliases

Aliases are collected by parameter, and of several aliases for one parameter the last one counts;
they are resolved by name, in every expression for itself. So a name is not collected if, wherever
it is used, a later expression has an alias for the same parameter: it is **superseded**. Values for
the names that were collected resolve all aliases but the superseded ones.

* `Template.mem_collectAliases_iff`: a name is collected iff somewhere it is the last alias for a
  parameter.
* `Template.mem_aliasesWithout_iff`: the names that are reported are those in use without a value.
* `collection_covers_all_but_superseded`: **values for the collected aliases are enough** unless
  some name is superseded.
-/

namespace Provision

namespace Template

/-- The alias that expression `i` has for a parameter. -/
def aliasAt (t : Template) (i : ℕ) (param : String) : Option String :=
  t.expressions[i]?.bind fun e => e.aliases.get? param

/-- A name is used as an alias, and wherever it is, a later expression has an alias for the same
parameter. -/
structure Superseded (t : Template) (name : String) : Prop where
  used : ∃ i param, t.aliasAt i param = some name
  later : ∀ i param, t.aliasAt i param = some name → ∃ j > i, t.aliasAt j param ≠ none

/-! ## What is collected -/

theorem distinct_collectAliases (t : Template) : t.collectAliases.Distinct := by
  have hfold : ∀ (es : List Expression) (found : Table String), found.Distinct →
      (es.foldl (fun found e => found.update e.aliases) found).Distinct := by
    intro es
    induction es with
    | nil => exact fun _ h => h
    | cons e es ih => exact fun found h => ih _ (h.update e.aliases)
  exact hfold t.expressions [] List.nodup_nil

/-- **The alias collected for a parameter** is the last one. -/
theorem get?_collectAliases_iff {t : Template} (h : ∀ e ∈ t.expressions, e.aliases.Distinct)
    (param name : String) :
    t.collectAliases.get? param = some name ↔
      ∃ i, t.aliasAt i param = some name ∧ ∀ j > i, t.aliasAt j param = none := by
  unfold collectAliases aliasAt
  generalize t.expressions = es at h
  induction es using List.reverseRecOn with
  | nil => simp [Table.get?]
  | append_singleton es e ih =>
    obtain ⟨hes, he⟩ := List.forall_mem_append.1 h
    rw [List.foldl_append, List.foldl_cons, List.foldl_nil, Table.get?_update,
      Table.ofEntries_of_distinct (he e (List.mem_singleton_self e))]
    have hlast : (es ++ [e])[es.length]? = some e := List.getElem?_concat_length
    have hbeyond : ∀ j : ℕ, j > es.length → (es ++ [e])[j]? = none := fun j hj =>
      List.getElem?_eq_none (by rw [List.length_append]; exact hj)
    cases hparam : e.aliases.get? param with
    | none =>
      -- the last expression has no alias for the parameter, so it may be left out
      have hsame : ∀ j : ℕ, ((es ++ [e])[j]?.bind fun e => e.aliases.get? param) =
          es[j]?.bind fun e => e.aliases.get? param := by
        intro j
        rcases Nat.lt_trichotomy j es.length with hj | rfl | hj
        · rw [List.getElem?_append_left hj]
        · rw [hlast, List.getElem?_eq_none (Nat.le_refl _), Option.bind_some, hparam,
            Option.bind_none]
        · rw [hbeyond j hj, List.getElem?_eq_none (Nat.le_of_lt hj)]
      rw [Option.none_or, ih hes]
      simp only [hsame]
    | some last =>
      rw [Option.some_or, Option.some_inj]
      constructor
      · rintro rfl
        refine ⟨es.length, by rw [hlast, Option.bind_some, hparam], fun j hj => ?_⟩
        rw [hbeyond j hj, Option.bind_none]
      · rintro ⟨i, hi, hnone⟩
        -- the last expression has an alias for the parameter, so no other has the last one
        obtain rfl : i = es.length := by
          rcases Nat.lt_trichotomy i es.length with hlt | heq | hgt
          · have := hnone es.length hlt
            rw [hlast, Option.bind_some, hparam] at this
            cases this
          · exact heq
          · rw [hbeyond i hgt, Option.bind_none] at hi
            cases hi
        rw [hlast, Option.bind_some, hparam] at hi
        exact Option.some.inj hi

variable {t : Template} (h : ∀ e ∈ t.expressions, e.aliases.Distinct)

include h

/-- **A name is collected** iff somewhere it is the last alias for a parameter. -/
theorem mem_collectAliases_iff (name : String) : name ∈ t.collectAliases.values ↔
    ∃ i param, t.aliasAt i param = some name ∧ ∀ j > i, t.aliasAt j param = none := by
  constructor
  · intro hmem
    obtain ⟨⟨param, _⟩, hentry, rfl⟩ := List.mem_map.1 hmem
    have hget := t.distinct_collectAliases.get?_of_mem hentry
    obtain ⟨i, hi⟩ := (get?_collectAliases_iff h param _).1 hget
    exact ⟨i, param, hi⟩
  · rintro ⟨i, param, hi⟩
    have hget := (get?_collectAliases_iff h param name).2 ⟨i, hi⟩
    exact List.mem_map_of_mem (Table.mem_of_get? hget)

theorem superseded_iff (name : String) : t.Superseded name ↔
    (∃ i param, t.aliasAt i param = some name) ∧ name ∉ t.collectAliases.values := by
  rw [mem_collectAliases_iff h]
  constructor
  · rintro ⟨hused, hlater⟩
    refine ⟨hused, ?_⟩
    rintro ⟨i, param, hi, hlast⟩
    obtain ⟨j, hj, hsome⟩ := hlater i param hi
    exact hsome (hlast j hj)
  · rintro ⟨hused, hnot⟩
    refine ⟨hused, fun i param hi => ?_⟩
    by_contra hlast
    push Not at hlast
    exact hnot ⟨i, param, hi, hlast⟩

/-! ## What is resolved -/

theorem used_iff (name : String) : (∃ i param, t.aliasAt i param = some name) ↔
    ∃ e ∈ t.expressions, name ∈ e.aliases.values := by
  constructor
  · rintro ⟨i, param, hi⟩
    obtain ⟨e, he, hparam⟩ := Option.bind_eq_some_iff.1 hi
    exact ⟨e, List.mem_of_getElem? he, List.mem_map_of_mem (Table.mem_of_get? hparam)⟩
  · rintro ⟨e, he, hname⟩
    obtain ⟨⟨param, _⟩, hentry, rfl⟩ := List.mem_map.1 hname
    obtain ⟨i, hi⟩ := List.mem_iff_getElem?.1 he
    refine ⟨i, param, ?_⟩
    rw [aliasAt, hi, Option.bind_some, (h e he).get?_of_mem hentry]

/-- **The names that are reported** are those in use without a value. -/
theorem mem_aliasesWithout_iff (values : Table Value) (name : String) :
    name ∈ t.aliasesWithout values ↔
      (∃ i param, t.aliasAt i param = some name) ∧ values.has name = false := by
  rw [used_iff h, aliasesWithout_eq, Text.mem_distinct, List.mem_flatMap]
  simp only [List.mem_filter, Bool.not_eq_true']
  constructor
  · rintro ⟨e, he, hname, hvalue⟩
    exact ⟨⟨e, he, hname⟩, hvalue⟩
  · rintro ⟨⟨e, he, hname⟩, hvalue⟩
    exact ⟨e, he, hname, hvalue⟩

/-- **The aliases that are left** are those whose names are reported. -/
theorem aliases_resolveAliases (values : Table Value) :
    (t.resolveAliases values).expressions.map Expression.aliases =
      t.expressions.map fun e =>
        e.aliases.filter fun x => (t.aliasesWithout values).contains x.2 := by
  rw [resolveAliases_eq]
  unfold mapExpressions expressions
  rw [List.map_map, List.map_map, List.map_map]
  refine List.map_congr_left fun s hs => ?_
  have he : s.expression ∈ t.expressions := List.mem_map_of_mem hs
  simp only [Function.comp_apply, Statement.expression_mapExpression, Expression.setAll_aliases]
  rw [without_fillings (h _ he)]
  refine List.filter_congr fun x hx => ?_
  have hused := (used_iff h x.2).2 ⟨_, he, List.mem_map_of_mem hx⟩
  rw [Bool.eq_iff_iff, List.contains_iff_mem, mem_aliasesWithout_iff h, Bool.not_eq_true']
  exact ⟨fun hvalue => ⟨hused, hvalue⟩, fun hmem => hmem.2⟩

/-- With values for the collected aliases, only superseded names are reported. -/
theorem mem_aliasesWithout_of_covered {values : Table Value}
    (hcover : ∀ name ∈ t.collectAliases.values, values.has name = true) (name : String) :
    name ∈ t.aliasesWithout values ↔ t.Superseded name ∧ values.has name = false := by
  rw [mem_aliasesWithout_iff h, superseded_iff h]
  constructor
  · rintro ⟨hused, hvalue⟩
    refine ⟨⟨hused, fun hcollected => ?_⟩, hvalue⟩
    rw [hcover name hcollected] at hvalue
    cases hvalue
  · rintro ⟨⟨hused, -⟩, hvalue⟩
    exact ⟨hused, hvalue⟩

omit h

/-- Values for the collected aliases, and for nothing else. -/
def collectedOnly (t : Template) : Table Value :=
  t.collectAliases.values.map fun name => (name, .null)

theorem has_collectedOnly (t : Template) (name : String) :
    t.collectedOnly.has name = true ↔ name ∈ t.collectAliases.values := by
  have hkeys : t.collectedOnly.keys = t.collectAliases.values := by
    unfold collectedOnly Table.keys
    rw [List.map_map]
    exact List.map_id _
  rw [Table.has_iff_mem_keys, hkeys]

end Template

open Template

/-- **Values for the collected aliases are enough**, but for superseded names: of those, the ones
without a value are reported, and exactly the aliases that name them are left. So everything is
resolved, whatever values there are for the collected aliases, if and only if no name is
superseded. -/
theorem collection_covers_all_but_superseded {t : Template}
    (h : ∀ e ∈ t.expressions, e.aliases.Distinct) :
    (∀ values : Table Value, (∀ name ∈ t.collectAliases.values, values.has name = true) →
      (∀ name, name ∈ t.aliasesWithout values ↔ t.Superseded name ∧ values.has name = false) ∧
      (t.resolveAliases values).expressions.map Expression.aliases =
        t.expressions.map fun e =>
          e.aliases.filter fun x => (t.aliasesWithout values).contains x.2) ∧
    ((∀ values : Table Value, (∀ name ∈ t.collectAliases.values, values.has name = true) →
        t.aliasesWithout values = [] ∧
          ∀ e ∈ (t.resolveAliases values).expressions, e.aliases = []) ↔
      ∀ name, ¬ t.Superseded name) := by
  refine ⟨fun values hcover =>
    ⟨mem_aliasesWithout_of_covered h hcover, aliases_resolveAliases h values⟩, ?_⟩
  constructor
  · intro hall name hname
    have hcover : ∀ name ∈ t.collectAliases.values, t.collectedOnly.has name = true := fun name =>
      (has_collectedOnly t name).2
    have hnone : t.collectedOnly.has name = false := by
      rw [← Bool.not_eq_true, has_collectedOnly]
      exact ((superseded_iff h name).1 hname).2
    have hmem := (mem_aliasesWithout_of_covered h hcover name).2 ⟨hname, hnone⟩
    rw [(hall _ hcover).1] at hmem
    cases hmem
  · intro hsuperseded values hcover
    have hempty : t.aliasesWithout values = [] := List.eq_nil_iff_forall_not_mem.2 fun name hmem =>
      hsuperseded name ((mem_aliasesWithout_of_covered h hcover name).1 hmem).1
    refine ⟨hempty, fun e he => ?_⟩
    have hleft : e.aliases ∈ (t.resolveAliases values).expressions.map Expression.aliases :=
      List.mem_map_of_mem he
    rw [aliases_resolveAliases h, hempty] at hleft
    obtain ⟨e', -, heq⟩ := List.mem_map.1 hleft
    rw [← heq]
    exact List.filter_eq_nil_iff.2 fun _ _ hcontains => by cases hcontains

/-- Two servers with different images. -/
def twoImages : Template where
  statements :=
    [{ node := .expression
        { action := "create", entity := "server", aliases := [("image", "ubuntu")] } },
     { node := .expression
        { action := "create", entity := "server", aliases := [("image", "debian")] } }]

/-- A value for the one image that is collected. -/
def debianImage : Table Value := [("debian", .int 12)]

theorem collection_covers_all_but_superseded_twoImages :
    (∀ e ∈ twoImages.expressions, e.aliases.Distinct) ∧
    (∀ name ∈ twoImages.collectAliases.values, debianImage.has name = true) ∧
    twoImages.Superseded "ubuntu" ∧
    (twoImages.resolveAliases debianImage).expressions.map Expression.aliases =
      [[("image", "ubuntu")], []] := by
  have hdistinct : ∀ e ∈ twoImages.expressions, e.aliases.keys.Nodup := by decide
  have hcover : ∀ name ∈ twoImages.collectAliases.values, debianImage.has name = true := by decide
  obtain ⟨hvalues, -⟩ := collection_covers_all_but_superseded hdistinct
  obtain ⟨hreported, hleft⟩ := hvalues debianImage hcover
  have hmissing : "ubuntu" ∈ twoImages.aliasesWithout debianImage := by decide
  exact ⟨hdistinct, hcover, ((hreported "ubuntu").1 hmissing).1, hleft.trans rfl⟩

/-- **The collection can miss a name**: only the second image is collected, and with a value for it
the first is reported and left. -/
theorem collection_misses_first_image :
    twoImages.collectAliases = [("image", "debian")] ∧
    (∀ name ∈ twoImages.collectAliases.values, debianImage.has name = true) ∧
    ¬ (twoImages.aliasesWithout debianImage = [] ∧
      ∀ e ∈ (twoImages.resolveAliases debianImage).expressions, e.aliases = []) := by
  have hmissing : twoImages.aliasesWithout debianImage = ["ubuntu"] := by decide
  refine ⟨rfl, by decide, fun hnone => ?_⟩
  rw [hmissing] at hnone
  cases hnone.1

end Provision
