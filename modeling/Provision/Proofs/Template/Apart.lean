import Mathlib.Data.List.Nodup
import Provision.Proofs.Template.Passes

/-!
# A parameter stays in one table

The check that no name is in two tables is made once, when an expression is read; after that the
passes change the tables in place, one name after the other. Since setting a parameter takes its
name out of the other three tables, the names stay apart all the same. References, aliases and
holes are only ever taken out (`Table.Drained`), and a name that was taken out is literal.

* `Expression.Edits.resolves`: what edits do to the four tables.
* `names_stay_apart`: **every parameter stays in one table**, and none is lost.
-/

namespace Provision

/-- A table of which entries were only taken out, and the names of these are literal now. -/
structure Table.Drained (literal : List String) (t t' : Table String) : Prop where
  sublist : t'.Sublist t
  moved : ∀ name ∈ t.keys, name ∉ t'.keys → name ∈ literal

theorem Table.Drained.refl (literal : List String) (t : Table String) : t.Drained literal t :=
  ⟨List.Sublist.refl t, fun _ hname hgone => absurd hname hgone⟩

theorem Table.Drained.trans {literal literal' : List String} {t t' t'' : Table String}
    (h : t.Drained literal t') (h' : t'.Drained literal' t'') (hsub : literal ⊆ literal') :
    t.Drained literal' t'' := by
  refine ⟨h'.sublist.trans h.sublist, fun name hname hgone => ?_⟩
  by_cases hmid : name ∈ t'.keys
  · exact h'.moved name hmid hgone
  · exact hsub (h.moved name hname hmid)

theorem Table.drained_erase {literal : List String} {name : String} (h : name ∈ literal)
    (t : Table String) : t.Drained literal (t.erase name) := by
  refine ⟨List.filter_sublist, fun other hother hgone => ?_⟩
  -- the only name that is gone is the erased one
  have heq : other = name := by
    by_contra hne
    exact hgone (Table.mem_keys_erase.2 ⟨hother, hne⟩)
  rw [heq]
  exact h

namespace Expression

/-- What passes may do to the tables of an expression: literal names stay, and the other three
tables are drained. -/
structure Resolves (e e' : Expression) : Prop where
  params : e.params.keys ⊆ e'.params.keys
  refs : e.refs.Drained e'.params.keys e'.refs
  aliases : e.aliases.Drained e'.params.keys e'.aliases
  holes : e.holes.Drained e'.params.keys e'.holes

/-- No name is in two of the four tables. -/
def Apart (e : Expression) : Prop := (e.sources.map Prod.snd).Pairwise List.Disjoint

theorem apart_of_clash? {e : Expression} (h : e.clash? = none) : e.Apart := by
  have hnodup : ((e.sources.map Prod.snd).flatten).Nodup := by
    rw [clash?_eq_none_iff] at h
    simpa [sources, names] using h
  exact (List.nodup_flatten.1 hnodup).2

theorem Resolves.refl (e : Expression) : e.Resolves e :=
  ⟨List.Subset.refl _, .refl _ _, .refl _ _, .refl _ _⟩

theorem Resolves.trans {e e' e'' : Expression} (h : e.Resolves e') (h' : e'.Resolves e'') :
    e.Resolves e'' where
  params := List.Subset.trans h.params h'.params
  refs := h.refs.trans h'.refs h'.params
  aliases := h.aliases.trans h'.aliases h'.params
  holes := h.holes.trans h'.holes h'.params

theorem resolves_set (e : Expression) (name : String) (v : Value) : e.Resolves (e.set name v) := by
  have hname : name ∈ (e.params.set name v).keys := Table.mem_keys_set.2 (Or.inl rfl)
  exact ⟨fun _ h => Table.mem_keys_set.2 (Or.inr h), Table.drained_erase hname _,
    Table.drained_erase hname _, Table.drained_erase hname _⟩

/-- **What edits do to the tables.** -/
theorem Edits.resolves {new : String → Prop} {given : Value → Prop} {e e' : Expression}
    (h : e.Edits new given e') : e.Resolves e' := by
  induction h with
  | none => exact .refl e
  | set _ _ _ ih => exact ih.trans (resolves_set _ _ _)

/-- Edits keep names apart. -/
theorem Edits.clash? {new : String → Prop} {given : Value → Prop} {e e' : Expression}
    (h : e.Edits new given e') (he : e.clash? = .none) : e'.clash? = .none := by
  induction h with
  | none => exact he
  | set _ _ _ ih => exact clash?_set ih _ _

/-- Edits that bring no new names keep the set of all names. -/
theorem Edits.mem_names_iff {given : Value → Prop} {e e' : Expression}
    (h : e.Edits (fun _ => False) given e') (name : String) : name ∈ e'.names ↔ name ∈ e.names := by
  induction h with
  | none => exact Iff.rfl
  | set _ hname _ ih =>
    rw [mem_names_set, ih]
    refine or_iff_right_of_imp fun heq => ?_
    rw [← ih, heq]
    exact hname.resolve_left id

theorem Edits.mono {new new' : String → Prop} {given given' : Value → Prop} {e e' : Expression}
    (h : e.Edits new given e') (hnew : ∀ name, new name → new' name)
    (hgiven : ∀ v, given v → given' v) : e.Edits new' given' e' := by
  induction h with
  | none => exact .none
  | set _ hname hv ih => exact ih.set (hname.imp_left (hnew _)) (hgiven _ hv)

end Expression

/-! ## Templates -/

section Templates

variable {new : String → Prop} {given : Value → Prop} {t t' : Template}

/-- The expressions of an edited template are edited, one by one. -/
theorem Template.Edits.expressions (h : t.Edits new given t') :
    List.Forall₂ (Expression.Edits new given) t.expressions t'.expressions := by
  unfold Template.expressions
  refine List.forall₂_map_left_iff.2 (List.forall₂_map_right_iff.2 (h.imp ?_))
  rintro s _ ⟨e, he, rfl⟩
  rw [Statement.expression_mapExpression]
  exact he

theorem Template.Edits.valid (h : t.Edits new given t') (hv : t.Valid) : t'.Valid := by
  have hexpressions := h.expressions
  unfold Template.Valid at hv ⊢
  generalize t.expressions = es, t'.expressions = es' at hexpressions hv ⊢
  induction hexpressions with
  | nil => exact List.forall_mem_nil _
  | cons he _ ih =>
    obtain ⟨hfirst, hrest⟩ := List.forall_mem_cons.1 hv
    exact List.forall_mem_cons.2 ⟨he.clash? hfirst, ih hrest⟩

/-- Passes edit a template, one after the other. -/
theorem Template.edits_after (t : Template) (passes : List Pass) :
    t.Edits (fun _ => True) (fun _ => True) (t.after passes) := by
  induction passes generalizing t with
  | nil => exact .refl t
  | cons p passes ih =>
    have hfirst : t.Edits (fun _ => True) (fun _ => True) (p.apply t) := by
      refine (Pass.edits p t).imp ?_
      rintro s _ ⟨e, he, rfl⟩
      exact ⟨e, he.mono (fun _ _ => trivial) (fun _ _ => trivial), rfl⟩
    exact hfirst.trans (ih (p.apply t))

theorem Template.after_append (t : Template) (earlier later : List Pass) :
    t.after (earlier ++ later) = (t.after earlier).after later :=
  List.foldl_append

/-- Two templates whose expressions have the same names, one by one. -/
def Template.SameNames (t t' : Template) : Prop :=
  List.Forall₂ (fun e e' => ∀ name, name ∈ e'.names ↔ name ∈ e.names) t.expressions t'.expressions

/-- A pass that has no names of its own keeps the names of every expression. -/
theorem Pass.sameNames {p : Pass} (h : ∀ name, ¬ p.New name) (t : Template) :
    t.SameNames (p.apply t) := by
  refine (Pass.edits p t).expressions.imp fun e e' he => ?_
  exact (he.mono h (fun _ hv => hv)).mem_names_iff

end Templates

/-- **Every parameter stays in one table, and none is lost**, whatever passes were made before and
are made after: literal parameters stay literal, and the entries of the other three tables are
taken out to become literal, or stay as they are. -/
theorem names_stay_apart {t : Template} (hv : t.Valid) (earlier later : List Pass) :
    List.Forall₂ (fun e e' => e.Apart ∧ e'.Apart ∧ e.Resolves e' ∧ e.names ⊆ e'.names)
      (t.after earlier).expressions (t.after (earlier ++ later)).expressions ∧
    (∀ strict fills, (t.after earlier).SameNames ((t.after earlier).resolve strict fills).1) ∧
    (∀ (σ ε : Type) (asker : Template.Asker σ ε) (state : σ),
      (t.after earlier).SameNames ((t.after earlier).ask asker state).1) ∧
    ∀ values, (t.after earlier).SameNames ((t.after earlier).resolveAliases values) := by
  have hvalid : (t.after earlier).Valid := (t.edits_after earlier).valid hv
  refine ⟨?_, fun strict fills => ?_, fun σ ε asker state => ?_, fun values => ?_⟩
  · have hedits := (t.after earlier).edits_after later
    rw [← Template.after_append] at hedits
    have hvalid' := hedits.valid hvalid
    refine List.forall₂_iff_get.2 ⟨hedits.expressions.length_eq, fun i h h' => ?_⟩
    have he := (List.forall₂_iff_get.1 hedits.expressions).2 i h h'
    exact ⟨Expression.apart_of_clash? (hvalid _ (List.get_mem _ _)),
      Expression.apart_of_clash? (hvalid' _ (List.get_mem _ _)), he.resolves,
      fun _ => he.mem_names⟩
  · exact Pass.sameNames (p := .resolve strict fills) (fun _ => id) _
  · exact Pass.sameNames (p := .ask asker state) (fun _ => id) _
  · exact Pass.sameNames (p := .resolveAliases values) (fun _ => id) _

/-- A server of which every kind of parameter is still open. -/
def openServer : Template where
  statements :=
    [{ node := .expression
        { action := "create", entity := "server", params := [("zone", .text "north")],
          refs := [("net", "lan")], aliases := [("image", "debian")],
          holes := [("size", "size"), ("name", "name"), ("owner", "owner")] } }]

/-- A questioner that answers once and then gives up. -/
def answersOnce : Template.Asker Bool String := fun hole fresh =>
  if fresh then (.ok (.text hole), false) else (.error "gone", false)

/-- Passes of every kind; the strict one refuses two holes, and the questions end midway. -/
def halfway : List Pass :=
  [.set 0 "tag" .null, .merge [("server.net", .text "wan")], .resolve true [("size", .int 4)],
   .ask answersOnce true, .resolveAliases [("debian", .int 12)]]

theorem names_stay_apart_halfway : openServer.Valid ∧ ∃ e',
    (openServer.after halfway).expressions = [e'] ∧ e'.Apart ∧ e'.holes.keys = ["owner"] ∧
      "net" ∈ e'.params.keys ∧ "image" ∈ e'.params.keys ∧ "name" ∈ e'.params.keys := by
  have hv : openServer.Valid := by
    intro e he
    rw [List.mem_singleton.1 he]
    decide
  obtain ⟨hall, -⟩ := names_stay_apart hv [] halfway
  obtain ⟨-, hapart, hresolves, -⟩ := (List.forall₂_cons.1 hall).1
  refine ⟨hv, _, rfl, hapart, by decide, ?_, ?_, ?_⟩
  · exact hresolves.refs.moved "net" (by decide) (by decide)
  · exact hresolves.aliases.moved "image" (by decide) (by decide)
  · exact hresolves.holes.moved "name" (by decide) (by decide)

end Provision
