import Provision.Proofs.Run.Replay

/-!
# Reports are consistent

A run fills in different fields of a statement when it succeeds, when it fails and when it aborts
the run. Whatever happened, the fields of a report agree with each other and with the template
(`Report.Consistent`), and the refusal to bind a name twice is never met: the statement that is
executed is a fresh copy, even if its name is bound in the template.

* `Handled.result_of_error`: a failed statement has no result.
* `reports_consistent`: **every report of a run is consistent.**
-/

namespace Provision

open Run

/-- The fields of a report agree with each other and with the template. -/
structure Report.Consistent (t : Template) (r : Report) : Prop where
  /-- A statement is that of the template, but for its outcome and its bound value. -/
  static : ∀ (k : ℕ) (a : Statement), r.statements[k]? = some a →
    ∃ s : Statement, t.statements[k]? = some s ∧ a.line = s.line ∧
      a.expression = s.expression ∧ a.declaredName? = s.declaredName?
  /-- A statement that did not abort the run has a result or an error, and its name is bound to
  the one or the other. -/
  settled : ∀ (k : ℕ) (a : Statement), r.statements[k]? = some a →
    (r.aborted = "" ∨ k + 1 < r.statements.length) →
    (a.outcome.error ≠ "" → a.outcome.result = .null) ∧
    ∀ i, a.identifier? = some i → i.bound = true ∧
      i.value = if a.outcome.error = "" then a.outcome.result else .failed a.outcome.error
  /-- The statement that aborted the run is the last one, with the reason as its error. -/
  aborting : r.aborted ≠ "" → ∃ a, r.statements.getLast? = some a ∧
    a.outcome.result = .null ∧ a.outcome.error = r.aborted ∧
    ∀ i, a.identifier? = some i → i.bound = false ∧ i.value = .null
  hasErrors : r.aborted ≠ "" → r.hasErrors = true

variable {σ : Type} {driver : Driver σ} {state : σ} {t : Template} {r : Report}

/-- A statement that is handled has no result if it failed. -/
theorem Run.Handled.result_of_error {scope : Scope} {after : σ} {s : Statement} {o : Outcome}
    {made : List Exchange} (h : Handled driver scope state s o made after) (he : o.error ≠ "") :
    o.result = .null := by
  cases h with
  | blocked obstacle hb => rfl
  | raised params response f after hr hp hreply => rfl
  | returned params response v after hr hp hreply => exact absurd rfl he

theorem Run.boundValue_eq (o : Outcome) :
    boundValue o = if o.error = "" then o.result else .failed o.error := by
  by_cases h : o.error = "" <;> simp [boundValue, Outcome.failed, h]

/-- The statement that aborted the run is the last one of the report. -/
theorem Reports.last_of_aborted {n : ℕ} (h : Reports driver state t r n) (ha : r.aborted ≠ "") :
    ∃ (s : Statement) (name : String),
      r.statements = (t.progressAt driver state n).done ++ [s.aborting name] ∧
      r.aborted = undeclaredMessage name := by
  rcases h.ending with ⟨hc, -, -⟩ | ⟨s, name, habort, hst⟩
  · exact absurd hc.aborted ha
  · exact ⟨s, name, hst, habort.aborted⟩

/-- A statement of a report is alike to the one of the template. -/
theorem Reports.alike_statement {n k : ℕ} (h : Reports driver state t r n) {a : Statement}
    (ha : r.statements[k]? = some a) : ∃ s, t.statements[k]? = some s ∧ s.Alike a := by
  have hk := (List.getElem?_eq_some_iff.1 ha).1
  have hfresh := congrArg (·[k]?) (Template.alike_iff.1 h.alike)
  unfold Template.before at hfresh
  simp only [List.getElem?_map, List.getElem?_take_of_lt hk, ha, Option.map_some] at hfresh
  obtain ⟨s, hs, heq⟩ := Option.map_eq_some_iff.1 hfresh
  exact ⟨s, hs, Statement.alike_iff.2 heq⟩

/-- **A report of a run is consistent.** -/
theorem Reports.consistent {n : ℕ} (h : Reports driver state t r n) : r.Consistent t where
  static k a ha := by
    obtain ⟨s, hs, hline, hexpression, hname⟩ := h.alike_statement ha
    exact ⟨s, hs, hline.symm, hexpression.symm, hname.symm⟩
  settled k a ha hna := by
    have hk := h.lt_of_not_aborting (List.getElem?_eq_some_iff.1 ha).1 hna
    obtain ⟨s, hs⟩ := h.exists_statement hk
    obtain ⟨o, made, hset, hsettles⟩ := h.settles hk hs
    rw [hset] at ha
    cases ha
    refine ⟨hsettles.handled.result_of_error, fun i hi => ?_⟩
    rw [Statement.outcome_settled, ← boundValue_eq]
    exact Statement.bound_settled hi
  aborting ha := by
    obtain ⟨s, name, hst, hname⟩ := h.last_of_aborted ha
    refine ⟨s.aborting name, by rw [hst, List.getLast?_concat], rfl, hname.symm, fun i hi => ?_⟩
    rw [Statement.identifier?_aborting] at hi
    obtain ⟨declared, -, rfl⟩ := Option.map_eq_some_iff.1 hi
    exact ⟨rfl, rfl⟩
  hasErrors ha := by
    obtain ⟨s, name, hst, -⟩ := h.last_of_aborted ha
    unfold Report.hasErrors
    rw [hst, List.any_append]
    have hfailed : (s.aborting name).failed = true :=
      decide_eq_true (undeclaredMessage_ne_empty name)
    simp [hfailed]

variable (id : String) (started finished : Time.Moment)

/-- **Every report of a run is consistent**, and no name is ever found bound already. -/
theorem reports_consistent :
    (∀ e, (t.run driver state id started finished).ending ≠ .broken e) ∧
    (driver.NeverExits →
      ∃ r, (t.run driver state id started finished).ending.report? = some r) ∧
    ∀ r, (t.run driver state id started finished).ending.report? = some r →
      r.Consistent t ∧
      (r.aborted ≠ "" ↔ ∃ name, (t.run driver state id started finished).ending =
        .aborted name r) := by
  refine ⟨fun e he => ?_, fun hd => ?_, fun r hr => ?_⟩
  · rcases @run_endings σ driver state t id started finished with
      ⟨r, hr, -⟩ | ⟨i, s, name, r, hr, -⟩ | ⟨message, hr, -⟩ <;>
    · rw [hr] at he
      cases he
  · obtain ⟨r, -, hr, -⟩ := @exists_report σ driver state t id started finished hd
    exact ⟨r, hr⟩
  · obtain ⟨n, h⟩ := reports_of_report? id started finished hr
    refine ⟨h.consistent, ?_⟩
    rcases @run_endings σ driver state t id started finished with
      ⟨r', hr', hc⟩ | ⟨i, s, name, r', hr', ha⟩ | ⟨message, hr', -⟩
    · rw [hr'] at hr ⊢
      cases hr
      refine iff_of_false (fun hne => hne hc.aborted) ?_
      rintro ⟨name, hname⟩
      cases hname
    · rw [hr'] at hr ⊢
      cases hr
      refine iff_of_true ?_ ⟨name, rfl⟩
      rw [ha.aborted]
      exact undeclaredMessage_ne_empty name
    · rw [hr'] at hr
      cases hr

theorem reports_consistent_used : counting.NeverExits ∧ ∃ r,
    (used.run counting 0 "run" default default).ending = .aborted "vm" r ∧
      r.Consistent used ∧ r.aborted ≠ "" := by
  have hd : counting.NeverExits := by intro _ _ _ h; cases h
  obtain ⟨-, -, hall⟩ := @reports_consistent ℕ counting 0 used "run" default default
  obtain ⟨hcons, hiff⟩ := hall _ rfl
  exact ⟨hd, _, rfl, hcons, hiff.2 ⟨"vm", rfl⟩⟩

end Provision
