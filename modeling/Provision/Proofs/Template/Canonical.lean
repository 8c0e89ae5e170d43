import Provision.Proofs.Run.Step
import Provision.Proofs.Template.Agreement
import Provision.Proofs.Text.Spelled

/-!
# Canonical texts

The tables of an expression are mappings: their entries stand in some order, but nothing that is
shown of an expression may depend on it. Entries are sorted by key before they are written, and
names before they are listed. Two tables that agree have the same entries (`Table.agrees_iff_perm`),
spelled keys do not tie, so the sorted entries are the same (`Table.Agrees.sortedEntries`), and all
that is made of them is.

* `Expression.Alike`: expressions that are equal as mappings.
* `Expression.Alike.readiness_blocked`: the obstacles whose message lists names.
* `canonical_text_unordered`: **no text depends on the order of a table.**
-/

namespace Provision

/-! ## Sorted entries -/

namespace Table

universe u

variable {α : Type u} {t t' : Table α}

/-- A mapping by spelled keys: no key occurs twice. -/
structure Keyed (t : Table α) : Prop where
  distinct : t.Distinct
  spelled : ∀ key ∈ t.keys, Text.IsSpelled key

theorem Distinct.mem_iff (h : t.Distinct) {key : String} {v : α} :
    (key, v) ∈ t ↔ t.get? key = some v :=
  ⟨h.get?_of_mem, mem_of_get?⟩

/-- **Tables that agree** have the same entries. -/
theorem agrees_iff_perm (ht : t.Distinct) (ht' : t'.Distinct) : t.Agrees t' ↔ t.Perm t' := by
  have hnodup : ∀ {u : Table α}, u.Distinct → u.Nodup := fun hu => hu.of_map
  rw [List.perm_ext_iff_of_nodup (hnodup ht) (hnodup ht')]
  constructor
  · rintro h ⟨key, v⟩
    rw [ht.mem_iff, ht'.mem_iff, h key]
  · intro h key
    refine Option.ext fun v => ?_
    rw [← ht.mem_iff, ← ht'.mem_iff, h (key, v)]

theorem sortedEntries_pairwise (t : Table α) :
    t.sortedEntries.Pairwise fun a b => Text.precedes a.1 b.1 = true := by
  apply List.pairwise_mergeSort
  · intro a b c hab hbc
    exact Text.inOrder_trans hab hbc
  · intro a b
    rw [Bool.or_eq_true]
    exact Text.inOrder_total _ _

/-- Entries in the order of their keys are the sorted ones. -/
theorem Keyed.eq_sortedEntries (h : t.Keyed) {entries : List (String × α)}
    (hperm : entries.Perm t)
    (horder : entries.Pairwise fun a b => Text.precedes a.1 b.1 = true) :
    entries = t.sortedEntries := by
  have hsame : entries.Perm t.sortedEntries := hperm.trans t.sortedEntries_perm.symm
  refine hsame.eq_of_pairwise ?_ horder t.sortedEntries_pairwise
  rintro ⟨key, v⟩ ⟨other, w⟩ hv hw hle hge
  have hmem : (key, v) ∈ t := hperm.mem_iff.1 hv
  have hmem' : (other, w) ∈ t := t.sortedEntries_perm.mem_iff.1 hw
  -- entries that tie have one key, so they have one value
  have hkey : key = other := (h.spelled key (List.mem_map_of_mem hmem)).precedes_antisymm
    (h.spelled other (List.mem_map_of_mem hmem')) hle hge
  subst hkey
  have hvalue : some v = some w :=
    (h.distinct.get?_of_mem hmem).symm.trans (h.distinct.get?_of_mem hmem')
  rw [Option.some.inj hvalue]

/-- **Sorted entries** do not depend on the order of the table. -/
theorem Agrees.sortedEntries (h : t.Agrees t') (ht : t.Keyed) (ht' : t'.Distinct) :
    t.sortedEntries = t'.sortedEntries := by
  have hperm : t'.Perm t := ((agrees_iff_perm ht.distinct ht').1 h).symm
  exact (ht.eq_sortedEntries (t'.sortedEntries_perm.trans hperm) t'.sortedEntries_pairwise).symm

theorem Agrees.values_perm (h : t.Agrees t') (ht : t.Distinct) (ht' : t'.Distinct) :
    t.values.Perm t'.values :=
  ((agrees_iff_perm ht ht').1 h).map Prod.snd

theorem Agrees.isEmpty (h : t.Agrees t') (ht : t.Distinct) (ht' : t'.Distinct) :
    t.isEmpty = t'.isEmpty :=
  ((agrees_iff_perm ht ht').1 h).isEmpty_eq

end Table

/-! ## Expressions that are equal as mappings -/

/-- Two expressions with the same action and entity, whose tables are the same mappings. -/
structure Expression.Alike (e e' : Expression) : Prop where
  action : e.action = e'.action
  entity : e.entity = e'.entity
  params : e.params.Agrees e'.params
  refs : e.refs.Agrees e'.refs
  aliases : e.aliases.Agrees e'.aliases
  holes : e.holes.Agrees e'.holes

theorem Expression.Alike.symm {e e' : Expression} (h : e.Alike e') : e'.Alike e :=
  ⟨h.action.symm, h.entity.symm, h.params.symm, h.refs.symm, h.aliases.symm, h.holes.symm⟩

/-- An expression as it is read: its tables are mappings by spelled keys, and the names that can be
listed are spelled. -/
structure Expression.Keyed (e : Expression) : Prop where
  params : e.params.Keyed
  refs : e.refs.Keyed
  aliases : e.aliases.Keyed
  holes : e.holes.Keyed
  aliasNames : ∀ name ∈ e.aliases.values, Text.IsSpelled name
  holeNames : ∀ name ∈ e.holes.values, Text.IsSpelled name

namespace Expression

variable {e e' : Expression}

theorem Alike.parts (h : e.Alike e') (he : e.Keyed) (he' : e'.Keyed) : e.parts = e'.parts := by
  unfold Expression.parts
  rw [h.action, h.entity, h.params.sortedEntries he.params he'.params.distinct,
    h.refs.sortedEntries he.refs he'.refs.distinct,
    h.aliases.sortedEntries he.aliases he'.aliases.distinct,
    h.holes.sortedEntries he.holes he'.holes.distinct]

theorem Alike.text (h : e.Alike e') (he : e.Keyed) (he' : e'.Keyed) : e.text = e'.text := by
  unfold Expression.text
  rw [h.parts he he']

end Expression

/-! ## Obstacles that list names -/

/-- The obstacles whose message is a list of names. -/
def Obstacle.ListsNames : Obstacle → Prop
  | .failedReference _ _ => False
  | .openHoles _ => True
  | .openAliases _ => True

namespace Expression

variable {e e' : Expression} {scope : Scope} {obstacle : Obstacle}

/-- All references are to names that are declared and have not failed. -/
def Usable (scope : Scope) (e : Expression) : Prop :=
  e.undeclared? scope = none ∧ e.failedReference? scope = none

theorem usable_iff : e.Usable scope ↔ ∀ name ∈ e.refs.values,
    scope.has name = true ∧ ∀ error, scope.get? name ≠ some (.failed error) := by
  unfold Usable undeclared? failedReference?
  rw [List.find?_eq_none, List.findSome?_eq_none_iff, ← forall₂_and]
  refine forall₂_congr fun name _ => and_congr (by simp) ?_
  split
  · rename_i error herror
    simp [herror]
  · rename_i hother
    exact ⟨fun _ error herror => hother error herror, fun _ => rfl⟩

theorem Alike.usable (h : e.Alike e') (he : e.Keyed) (he' : e'.Keyed) :
    e.Usable scope ↔ e'.Usable scope := by
  have hperm := h.refs.values_perm he.refs.distinct he'.refs.distinct
  rw [usable_iff, usable_iff]
  exact forall_congr' fun name => by rw [hperm.mem_iff]

theorem readiness_of_usable (h : e.Usable scope) : e.readiness scope =
    if !e.holes.isEmpty then .blocked (.openHoles (Text.sorted e.holes.values))
    else if !e.aliases.isEmpty then .blocked (.openAliases (Text.sorted e.aliases.values))
    else .ready (e.effectiveParams scope) := by
  unfold readiness
  rw [h.1, h.2]

/-- References come first: names are listed only if all references can be used. -/
theorem usable_of_blocked (h : e.readiness scope = .blocked obstacle)
    (hlists : obstacle.ListsNames) : e.Usable scope := by
  unfold readiness at h
  cases hu : e.undeclared? scope with
  | some name =>
    rw [hu] at h
    cases h
  | none =>
    cases hf : e.failedReference? scope with
    | some found =>
      rw [hu, hf] at h
      cases h
      exact hlists.elim
    | none => exact ⟨hu, hf⟩

/-- **The names that are listed** do not depend on the order of a table. -/
theorem Alike.readiness_blocked (h : e.Alike e') (he : e.Keyed) (he' : e'.Keyed)
    (hlists : obstacle.ListsNames) (hblocked : e.readiness scope = .blocked obstacle) :
    e'.readiness scope = .blocked obstacle := by
  have husable : e.Usable scope := usable_of_blocked hblocked hlists
  have hholes := h.holes.values_perm he.holes.distinct he'.holes.distinct
  have haliases := h.aliases.values_perm he.aliases.distinct he'.aliases.distinct
  rw [readiness_of_usable husable, h.holes.isEmpty he.holes.distinct he'.holes.distinct,
    h.aliases.isEmpty he.aliases.distinct he'.aliases.distinct,
    Text.sorted_eq_of_perm he'.holeNames hholes,
    Text.sorted_eq_of_perm he'.aliasNames haliases] at hblocked
  rw [readiness_of_usable ((h.usable he he').1 husable), ← hblocked]
  -- only the parameters of an expression that is ready could differ
  split
  · rfl
  · split
    · rfl
    · rename_i hnone hnone'
      rw [if_neg hnone, if_neg hnone'] at hblocked
      cases hblocked

end Expression

/-! ## Statements -/

variable {e e' : Expression}

theorem Expression.Alike.nodeText (h : e.Alike e') (he : e.Keyed) (he' : e'.Keyed)
    {s s' : Statement} (hs : s.expression = e) (hs' : s'.expression = e')
    (hname : s.declaredName? = s'.declaredName?) : s.node.text = s'.node.text := by
  have htext : s.expression.text = s'.expression.text := by rw [hs, hs', h.text he he']
  obtain ⟨node, line, outcome⟩ := s
  obtain ⟨node', line', outcome'⟩ := s'
  cases node with
  | expression e =>
    cases node' with
    | expression e' => exact htext
    | declaration left right => cases hname
  | declaration left right =>
    cases node' with
    | expression e' => cases hname
    | declaration left' right' =>
      have hleft : left.name = left'.name := Option.some.inj hname
      have hright : right.text = right'.text := htext
      rw [Node.text, Node.text, hleft, hright]

/-- A statement that is blocked is recorded with the message of its obstacle. -/
theorem Run.step_blocked {σ : Type} (driver : Driver σ) (total : ℕ) {p : Run.Progress σ}
    {s : Statement} {obstacle : Obstacle}
    (h : s.expression.readiness p.scope = .blocked obstacle) :
    ∃ q, Run.step driver total p s = (q, none) ∧
      q.done = p.done ++ [s.settled { error := obstacle.message }] := by
  have hhandled : Run.Handled driver p.scope p.state s { error := obstacle.message } [] p.state :=
    .blocked obstacle h
  obtain ⟨q, hq, hsettles, -⟩ := Run.settles_of_handled hhandled total
  exact ⟨q, hq, hsettles.done⟩

/-- **No text depends on the order of a table.** Expressions that are equal as mappings have one
canonical text; statements of them that declare the same name, or none, have one text, and one line
if none was given; and if holes or aliases are in the way of one of them, a run records the same
message for both. -/
theorem canonical_text_unordered (h : e.Alike e') (he : e.Keyed) (he' : e'.Keyed) :
    e.text = e'.text ∧
    (∀ s s' : Statement, s.expression = e → s'.expression = e' →
      s.declaredName? = s'.declaredName? →
      s.node.text = s'.node.text ∧
        (s.line = "" → s'.line = "" →
          Statement.line <$> s.withLine = Statement.line <$> s'.withLine)) ∧
    (∀ scope obstacle, obstacle.ListsNames →
      (e.readiness scope = .blocked obstacle ↔ e'.readiness scope = .blocked obstacle)) ∧
    ∀ (σ : Type) (driver : Driver σ) (total : ℕ) (p : Run.Progress σ) (s s' : Statement) obstacle,
      s.expression = e → s'.expression = e' → obstacle.ListsNames →
      e.readiness p.scope = .blocked obstacle → ∃ q q',
        Run.step driver total p s = (q, none) ∧ Run.step driver total p s' = (q', none) ∧
        q.done = p.done ++ [s.settled { error := obstacle.message }] ∧
        q'.done = p.done ++ [s'.settled { error := obstacle.message }] := by
  refine ⟨h.text he he', ?lines, ?obstacles, ?recorded⟩
  case lines =>
    intro s s' hs hs' hname
    have htext := h.nodeText he he' hs hs' hname
    refine ⟨htext, fun hline hline' => ?_⟩
    unfold Statement.withLine
    rw [if_pos hline, if_pos hline', htext]
    cases s'.node.text <;> rfl
  case obstacles =>
    intro scope obstacle hlists
    exact ⟨h.readiness_blocked he he' hlists, h.symm.readiness_blocked he' he hlists⟩
  case recorded =>
    intro σ driver total p s s' obstacle hs hs' hlists hblocked
    have hblocked' := h.readiness_blocked he he' hlists hblocked
    rw [← hs] at hblocked
    rw [← hs'] at hblocked'
    obtain ⟨q, hq, hdone⟩ := Run.step_blocked driver total hblocked
    obtain ⟨q', hq', hdone'⟩ := Run.step_blocked driver total hblocked'
    exact ⟨q, q', hq, hq', hdone, hdone'⟩

/-- An expression with two holes of one name. -/
def ascending : Expression where
  action := "create"
  entity := "vm"
  params := [("name", .text "web"), ("size", .int 2)]
  aliases := [("image", "debian"), ("zone", "eu")]
  holes := [("disk", "capacity"), ("key", "owner"), ("user", "owner")]

/-- The same mappings, written the other way round. -/
def descending : Expression :=
  { ascending with
    params := ascending.params.reverse
    aliases := ascending.aliases.reverse
    holes := ascending.holes.reverse }

theorem Expression.keyed_of_mark_free (hparams : e.params.Distinct) (hrefs : e.refs.Distinct)
    (haliases : e.aliases.Distinct) (hholes : e.holes.Distinct)
    (h : ∀ text ∈ e.params.keys ++ e.refs.keys ++ e.aliases.keys ++ e.holes.keys ++
      e.aliases.values ++ e.holes.values, Text.mark ∉ text.toList) : e.Keyed := by
  have hspelled := fun text ht => (Text.isPlain_of_mark_free (h text ht)).isSpelled
  simp only [List.mem_append] at hspelled
  exact ⟨⟨hparams, fun key hkey => hspelled key (by simp only [hkey, true_or])⟩,
    ⟨hrefs, fun key hkey => hspelled key (by simp only [hkey, true_or, or_true])⟩,
    ⟨haliases, fun key hkey => hspelled key (by simp only [hkey, true_or, or_true])⟩,
    ⟨hholes, fun key hkey => hspelled key (by simp only [hkey, true_or, or_true])⟩,
    fun name hname => hspelled name (by simp only [hname, true_or, or_true]),
    fun name hname => hspelled name (by simp only [hname, or_true])⟩

theorem descending_keyed : descending.Keyed :=
  Expression.keyed_of_mark_free (show List.Nodup _ by decide) List.nodup_nil
    (show List.Nodup _ by decide) (show List.Nodup _ by decide) (by decide)

theorem ascending_keyed : ascending.Keyed :=
  Expression.keyed_of_mark_free (show List.Nodup _ by decide) List.nodup_nil
    (show List.Nodup _ by decide) (show List.Nodup _ by decide) (by decide)

theorem descending_alike_ascending : descending.Alike ascending where
  action := rfl
  entity := rfl
  params := (Table.agrees_iff_perm descending_keyed.params.distinct
    ascending_keyed.params.distinct).2 (List.reverse_perm _)
  refs := .refl _
  aliases := (Table.agrees_iff_perm descending_keyed.aliases.distinct
    ascending_keyed.aliases.distinct).2 (List.reverse_perm _)
  holes := (Table.agrees_iff_perm descending_keyed.holes.distinct
    ascending_keyed.holes.distinct).2 (List.reverse_perm _)

theorem canonical_text_unordered_reversed :
    descending.holes ≠ ascending.holes ∧ descending.text = ascending.text ∧
    ascending.text = .ok ("create vm name=web size=2 image=@debian zone=@eu " ++
      "disk=\x7bcapacity\x7d key=\x7bowner\x7d user=\x7bowner\x7d") ∧
    descending.readiness [] = .blocked (.openHoles ["capacity", "owner", "owner"]) := by
  obtain ⟨htext, -, hreadiness, -⟩ := canonical_text_unordered descending_alike_ascending
    descending_keyed ascending_keyed
  refine ⟨by decide, htext, ?_, (hreadiness [] (.openHoles _) trivial).2 ?_⟩
  · have hparams : ascending.params.sortedEntries = ascending.params :=
      List.mergeSort_of_pairwise (by decide)
    have haliases : ascending.aliases.sortedEntries = ascending.aliases :=
      List.mergeSort_of_pairwise (by decide)
    have hholes : ascending.holes.sortedEntries = ascending.holes :=
      List.mergeSort_of_pairwise (by decide)
    have hrefs : ascending.refs.sortedEntries = ascending.refs :=
      List.mergeSort_of_pairwise List.Pairwise.nil
    unfold Expression.text Expression.parts
    rw [hparams, haliases, hholes, hrefs]
    decide +kernel
  · have hnames : Text.sorted ascending.holes.values = ascending.holes.values :=
      List.mergeSort_of_pairwise (by decide)
    have husable : ascending.Usable [] := ⟨rfl, rfl⟩
    rw [Expression.readiness_of_usable husable, hnames]
    rfl

end Provision
