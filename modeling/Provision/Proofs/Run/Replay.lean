import Mathlib.Data.List.Forall2
import Provision.Proofs.Run.Resolution

/-!
# Running a template again

A statement is executed from a fresh copy, so what an earlier run has left in a template, its
outcomes and its bound values, has no way into the next run. Two templates are **alike** if they
differ in nothing else; their runs are the same, the log included (`run_alike`).

The report of a run is alike to the template up to the statement where the run ended, and a run of
these statements alone ends in the same way (`run_before`). So a report can be run in place of its
template.

* `alike_iff`: being alike is having the same fresh copy.
* `run_replays`: **a run depends on the static part of a template only**, and its report replays it.
-/

namespace Provision

open Run

/-- Two statements that differ at most in what a run fills in: the outcome, and the value of the
declared name and whether it is bound. -/
structure Statement.Alike (s s' : Statement) : Prop where
  line : s.line = s'.line
  expression : s.expression = s'.expression
  declaredName? : s.declaredName? = s'.declaredName?

/-- Two templates whose statements are alike, one by one. -/
def Template.Alike (t u : Template) : Prop :=
  List.Forall₂ Statement.Alike t.statements u.statements

theorem Statement.fresh_fresh (s : Statement) : s.fresh.fresh = s.fresh := by
  obtain ⟨node, line, outcome⟩ := s
  cases node <;> rfl

/-- **Alike statements** are those with the same fresh copy. -/
theorem Statement.alike_iff {s s' : Statement} : s.Alike s' ↔ s.fresh = s'.fresh := by
  obtain ⟨node, line, outcome⟩ := s
  obtain ⟨node', line', outcome'⟩ := s'
  constructor
  · rintro ⟨hline, hexpression, hname⟩
    cases node <;> cases node' <;>
      simp_all [fresh, Node.unbound, Statement.expression, Node.body, declaredName?,
        Statement.identifier?, Node.identifier?]
  · intro h
    have hline : line = line' := congrArg Statement.line h
    have hexpression := congrArg Statement.expression h
    have hname := congrArg Statement.declaredName? h
    cases node <;> cases node' <;> exact ⟨hline, hexpression, hname⟩

theorem Template.alike_iff {t u : Template} : t.Alike u ↔
    t.statements.map Statement.fresh = u.statements.map Statement.fresh := by
  unfold Template.Alike
  rw [← List.forall₂_eq_eq_eq, List.forall₂_map_left_iff, List.forall₂_map_right_iff]
  exact ⟨List.Forall₂.imp fun _ _ => Statement.alike_iff.1,
    List.Forall₂.imp fun _ _ => Statement.alike_iff.2⟩

variable {σ : Type}

namespace Run

/-- A step makes its own fresh copy. -/
theorem step_fresh (driver : Driver σ) (total : ℕ) (p : Progress σ) (s : Statement) :
    step driver total p s.fresh = step driver total p s := by
  unfold step
  rw [Statement.fresh_fresh]

theorem steps_fresh (driver : Driver σ) (total : ℕ) (ss : List Statement) (p : Progress σ) :
    steps driver total (ss.map Statement.fresh) p = steps driver total ss p := by
  induction ss generalizing p with
  | nil => rfl
  | cons s ss ih =>
    simp only [List.map_cons, steps, step_fresh]
    rcases step driver total p s with ⟨q, _ | stop⟩
    · exact ih q
    · rfl

end Run

variable {driver : Driver σ} {state : σ} {t u : Template}
  (id : String) (started finished : Time.Moment)

/-- **Templates that are alike have the same run.** -/
theorem run_alike (h : t.Alike u) :
    u.run driver state id started finished = t.run driver state id started finished := by
  have hfresh := Template.alike_iff.1 h
  have hlen : t.statements.length = u.statements.length := List.Forall₂.length_eq h
  unfold Template.run
  simp only
  rw [← steps_fresh driver _ u.statements, ← steps_fresh driver _ t.statements, hfresh, hlen]

/-! ## Reports -/

/-- How a run ends is told by its record and by what stopped it. -/
theorem conclude_ending {p q : Progress σ} (h : p.quiet = q.quiet) (stop : Option Stop) :
    (conclude id started finished (p, stop)).ending =
      (conclude id started finished (q, stop)).ending := by
  obtain ⟨-, -, hdone, -⟩ := Progress.quiet_eq_iff.1 h
  rcases stop with _ | _ | _ | _ <;> simp [conclude, hdone]

/-- A run that goes no further than its first `n` statements is the run of these alone. -/
theorem run_before {n : ℕ}
    (h : t.trace driver state t.statements.length = t.trace driver state n) :
    ((t.before n).run driver state id started finished).ending =
        (t.run driver state id started finished).ending ∧
      ((t.before n).run driver state id started finished).progress.quiet =
        (t.run driver state id started finished).progress.quiet := by
  obtain ⟨p, stop, hrun, hp, hstop⟩ := @run_trace σ driver state t id started finished
  obtain ⟨q, stop', hrun', hq, hstop'⟩ := @run_trace σ driver state (t.before n) id started finished
  have htrace := @trace_before σ driver state t n
  rw [← h] at htrace
  simp only [hush, Prod.mk.injEq] at htrace
  have hquiet : q.quiet = p.quiet := by rw [hq, hp]; exact htrace.1
  obtain rfl : stop' = stop := by rw [hstop', hstop]; exact htrace.2
  rw [hrun, hrun', conclude_quiet, conclude_quiet]
  exact ⟨conclude_ending id started finished hquiet stop', hquiet⟩

variable {r : Report}

/-- A report has the statements of the template, up to where the run ended. -/
theorem Reports.alike {n : ℕ} (h : Reports driver state t r n) :
    (t.before r.statements.length).Alike ⟨r.statements⟩ := by
  rw [Template.alike_iff]
  have hfresh := done_fresh h.le h.trace
  rcases h.ending with ⟨hc, hn, hlen⟩ | ⟨s, name, ha, hst⟩
  · rw [hlen, ← hfresh, ← h.settled, ← hlen, List.take_length]
  · have hdone := done_length h.le h.trace
    have hlen : r.statements.length = n + 1 := by rw [hst, List.length_append, hdone]; rfl
    unfold Template.before at hfresh ⊢
    -- the statement that aborted the run is the last one
    rw [hlen, hst, List.map_append, hfresh, List.take_add_one, ha.statement, Option.toList_some,
      List.map_append, List.map_singleton, List.map_singleton, Statement.fresh_aborting]

/-- The run went no further than the statements of its report. -/
theorem Reports.trace_length {n : ℕ} (h : Reports driver state t r n) :
    t.trace driver state t.statements.length = t.trace driver state r.statements.length := by
  rcases h.ending with ⟨-, hn, hlen⟩ | ⟨s, name, ha, hst⟩
  · rw [hlen, hn]
  · have hdone := done_length h.le h.trace
    have hlen : r.statements.length = n + 1 := by rw [hst, List.length_append, hdone]; rfl
    rw [hlen]
    exact trace_stopped (List.getElem?_eq_some_iff.1 ha.statement).1 ha.trace

/-- A run that has a report completed or was aborted, whatever the driver can do. -/
theorem reports_of_report? (h : (t.run driver state id started finished).ending.report? = some r) :
    ∃ n, Reports driver state t r n := by
  rcases @run_endings σ driver state t id started finished with
    ⟨r', hr, hc⟩ | ⟨i, s, name, r', hr, ha⟩ | ⟨message, hr, -⟩
  · rw [hr] at h
    cases h
    exact ⟨_, hc.reports⟩
  · rw [hr] at h
    cases h
    exact ⟨i, ha.reports⟩
  · rw [hr] at h
    cases h

/-- **A run depends on the static part of a template only**, and its report can be run instead. -/
theorem run_replays :
    (∀ u : Template, t.Alike u →
      u.run driver state id started finished = t.run driver state id started finished) ∧
    ∀ r, (t.run driver state id started finished).ending.report? = some r →
      let again := Template.run driver state id started finished ⟨r.statements⟩
      again.ending = (t.run driver state id started finished).ending ∧
      again.progress.exchanges = (t.run driver state id started finished).progress.exchanges ∧
      again.progress.state = (t.run driver state id started finished).progress.state := by
  refine ⟨fun u hu => run_alike id started finished hu, fun r hr => ?_⟩
  obtain ⟨n, h⟩ := reports_of_report? id started finished hr
  obtain ⟨hending, hquiet⟩ := run_before id started finished h.trace_length
  obtain ⟨hstate, -, -, hmade⟩ := Progress.quiet_eq_iff.1 hquiet
  rw [← run_alike id started finished h.alike] at hending hstate hmade
  exact ⟨hending, hmade, hstate⟩

/-- A template that was run before, with an undeclared name in its second statement: the outcomes
and the bound name of that run are still there. -/
def used : Template where
  statements :=
    [{ node := .declaration { name := "disk", value := .failed "full", bound := true }
        { action := "create", entity := "disk" }
       outcome := { error := "full" } },
     { node := .expression
        { action := "attach", entity := "disk", refs := [("disk", "disk"), ("host", "vm")] }
       outcome := { error := undeclaredMessage "vm" } }]

/-- The same template before any run. -/
def unused : Template where
  statements :=
    [{ node := .declaration { name := "disk" } { action := "create", entity := "disk" } },
     { node := .expression
        { action := "attach", entity := "disk", refs := [("disk", "disk"), ("host", "vm")] } }]

theorem run_replays_used : used.Alike unused ∧
    unused.run counting 0 "run" default default = used.run counting 0 "run" default default ∧
    ∃ r, (used.run counting 0 "run" default default).ending = .aborted "vm" r ∧
      (Template.run counting 0 "run" default default ⟨r.statements⟩).ending = .aborted "vm" r := by
  have halike : used.Alike unused := .cons ⟨rfl, rfl, rfl⟩ (.cons ⟨rfl, rfl, rfl⟩ .nil)
  obtain ⟨hrun, hagain⟩ := @run_replays ℕ counting 0 used "run" default default
  refine ⟨halike, hrun unused halike, _, rfl, ?_⟩
  exact (hagain _ rfl).1

end Provision
