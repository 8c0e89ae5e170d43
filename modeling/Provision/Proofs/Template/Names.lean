import Provision.Proofs.Table
import Provision.Template.Basic

/-!
# The names of an expression

A parameter is literal, a reference, an alias or a hole, and no two of these at once. The check
made when an expression is read finds no clash iff no name occurs twice in the four tables taken
together (`clash?_eq_none_iff`).
-/

namespace Provision

/-- The parameter names of the four tables, in the order in which they are searched. -/
def Expression.names (e : Expression) : List String :=
  e.params.keys ++ e.refs.keys ++ e.aliases.keys ++ e.holes.keys

/-- A template as it passes validation: no expression has a name in two of its tables. -/
def Template.Valid (t : Template) : Prop := ∀ e ∈ t.expressions, e.clash? = none

namespace Expression

/-- Names are added to those seen iff none of them was seen before or occurs twice. -/
theorem clashIn_ok_iff (source : String) (names : List String) :
    ∀ {seen found : Table String}, seen.keys.Nodup →
      (clashIn source names seen = .ok found ↔
        (seen.keys ++ names).Nodup ∧ found = seen ++ names.map fun name => (name, source)) := by
  induction names with
  | nil =>
    intro seen found hseen
    simp [clashIn, hseen, eq_comm]
  | cons name names ih =>
    intro seen found hseen
    unfold clashIn
    by_cases hmem : name ∈ seen.keys
    · -- a clash: the name is there already, so the names are not all different
      have hsome := (Table.has_iff_mem_keys seen name).2 hmem
      unfold Table.has at hsome
      obtain ⟨earlier, he⟩ := Option.isSome_iff_exists.1 hsome
      rw [he]
      simp only [reduceCtorEq, false_iff, not_and]
      intro hnodup
      exact absurd rfl ((List.nodup_append.1 hnodup).2.2 name hmem name List.mem_cons_self)
    · have hnone : seen.get? name = none := by
        rw [← Option.not_isSome_iff_eq_none]
        exact fun h => hmem ((Table.has_iff_mem_keys seen name).1 h)
      rw [hnone]
      have hkeys : Table.keys (seen ++ [(name, source)]) = seen.keys ++ [name] := by
        simp [Table.keys]
      have hnext : (Table.keys (seen ++ [(name, source)])).Nodup := by
        rw [hkeys]
        exact List.nodup_append.2 ⟨hseen, by simp, by
          intro a ha b hb; rw [List.mem_singleton.1 hb]; exact fun h => hmem (h ▸ ha)⟩
      simp only
      rw [ih hnext, hkeys]
      simp

/-- Searching several sources finds no clash iff all their names are different. -/
theorem search_ok_iff (sources : List (String × List String)) :
    ∀ {seen : Table String}, seen.keys.Nodup →
      ((∃ found, sources.foldlM (fun seen s => clashIn s.1 s.2 seen) seen = .ok found) ↔
        (seen.keys ++ sources.flatMap Prod.snd).Nodup) := by
  induction sources with
  | nil =>
    intro seen hseen
    simpa [pure, Except.pure] using hseen
  | cons source sources ih =>
    intro seen hseen
    obtain ⟨label, names⟩ := source
    rw [List.foldlM_cons, List.flatMap_cons, ← List.append_assoc]
    cases hc : clashIn label names seen with
    | error clash =>
      have hnot : ¬ (seen.keys ++ names).Nodup := fun h => by
        have hok := (clashIn_ok_iff label names hseen).2 ⟨h, rfl⟩
        rw [hc] at hok; cases hok
      exact iff_of_false (by rintro ⟨found, h⟩; cases h)
        fun h => hnot (List.nodup_append.1 h).1
    | ok found =>
      obtain ⟨hnodup, rfl⟩ := (clashIn_ok_iff label names hseen).1 hc
      have hkeys :
          Table.keys (seen ++ names.map fun name => (name, label)) = seen.keys ++ names := by
        simp [Table.keys, Function.comp_def]
      rw [← hkeys]
      exact ih (by rw [hkeys]; exact hnodup)

/-- **No clash** is found iff no name occurs twice in the four tables taken together. -/
theorem clash?_eq_none_iff (e : Expression) : e.clash? = none ↔ e.names.Nodup := by
  have hnames : e.names = Table.keys ([] : Table String) ++ e.sources.flatMap Prod.snd := by
    simp [names, sources, Table.keys]
  rw [hnames, ← search_ok_iff e.sources (by simp [Table.keys])]
  unfold clash?
  cases e.sources.foldlM (fun seen s => clashIn s.1 s.2 seen) [] with
  | ok found => simp
  | error clash => simp

/-- The names are all different iff no table has a name twice and no two tables share one. -/
theorem names_nodup_iff (e : Expression) : e.names.Nodup ↔
    (e.params.Distinct ∧ e.refs.Distinct ∧ e.aliases.Distinct ∧ e.holes.Distinct) ∧
      (∀ name ∈ e.params.keys, name ∉ e.refs.keys ∧ name ∉ e.aliases.keys ∧ name ∉ e.holes.keys) ∧
      (∀ name ∈ e.refs.keys, name ∉ e.aliases.keys ∧ name ∉ e.holes.keys) ∧
      ∀ name ∈ e.aliases.keys, name ∉ e.holes.keys := by
  unfold names Table.Distinct
  simp only [List.nodup_append, List.mem_append]
  constructor
  · rintro ⟨⟨⟨hp, hr, hpr⟩, ha, hpra⟩, hh, hprah⟩
    refine ⟨⟨hp, hr, ha, hh⟩, fun name hname => ⟨?_, ?_, ?_⟩, fun name hname => ⟨?_, ?_⟩, ?_⟩
    · exact fun h => hpr name hname name h rfl
    · exact fun h => hpra name (Or.inl hname) name h rfl
    · exact fun h => hprah name (Or.inl (Or.inl hname)) name h rfl
    · exact fun h => hpra name (Or.inr hname) name h rfl
    · exact fun h => hprah name (Or.inl (Or.inr hname)) name h rfl
    · exact fun name hname h => hprah name (Or.inr hname) name h rfl
  · rintro ⟨⟨hp, hr, ha, hh⟩, hparams, hrefs, haliases⟩
    refine ⟨⟨⟨hp, hr, ?_⟩, ha, ?_⟩, hh, ?_⟩
    · rintro name hname _ h rfl
      exact (hparams name hname).1 h
    · rintro name (hname | hname) _ h rfl
      · exact (hparams name hname).2.1 h
      · exact (hrefs name hname).1 h
    · rintro name ((hname | hname) | hname) _ h rfl
      · exact (hparams name hname).2.2 h
      · exact (hrefs name hname).2 h
      · exact haliases name hname h

theorem distinct_holes {e : Expression} (h : e.clash? = none) : e.holes.Distinct :=
  ((names_nodup_iff e).1 ((clash?_eq_none_iff e).1 h)).1.2.2.2

end Expression

end Provision
