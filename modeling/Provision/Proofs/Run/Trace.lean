import Provision.Proofs.Run.Step

/-!
# Runs as indexed traces

`Template.trace t n` is a run after its first `n` statements, or where it stopped before, and
`Template.progressAt` its progress. The log and the texts of the report aside, a run is the trace
of all its statements (`run_trace`), and the run of the first `n` statements alone is the trace at
`n` (`trace_before`).

* `trace_succ`, `trace_stopped`: how the trace goes on, and that it does not go on once stopped.
* `run_cases`: **how a run ends** against a driver that never ends the program: with all
  statements settled, or at a statement with an undeclared name.
* `scope_eq`: the scope is what the recorded statements have bound, at every point.
-/

namespace Provision

open Run

variable {σ : Type}

/-- The template cut to its first `n` statements. -/
def Template.before (t : Template) (n : ℕ) : Template := ⟨t.statements.take n⟩

/-- A run after its first `n` statements, or where it stopped before. -/
def Template.trace (driver : Driver σ) (state : σ) (t : Template) (n : ℕ) :
    Progress σ × Option Stop :=
  steps driver t.statements.length (t.statements.take n) { state }

/-- How far a run has come after its first `n` statements. -/
def Template.progressAt (driver : Driver σ) (state : σ) (t : Template) (n : ℕ) : Progress σ :=
  (t.trace driver state n).1

namespace Run

theorem steps_append (driver : Driver σ) (total : ℕ) (xs ys : List Statement) (p : Progress σ) :
    steps driver total (xs ++ ys) p =
      match steps driver total xs p with
      | (q, some stop) => (q, some stop)
      | (q, none) => steps driver total ys q := by
  induction xs generalizing p with
  | nil => rfl
  | cons s xs ih =>
    simp only [List.cons_append, steps]
    rcases step driver total p s with ⟨q, _ | stop⟩
    · exact ih q
    · rfl

theorem steps_hush (driver : Driver σ) (total total' : ℕ) (ss : List Statement) :
    ∀ {p q : Progress σ}, p.quiet = q.quiet →
      hush (steps driver total ss p) = hush (steps driver total' ss q) := by
  induction ss with
  | nil => intro p q h; exact congrArg (·, none) h
  | cons s ss ih =>
    intro p q h
    have hs := step_hush h driver total total' s
    simp only [steps]
    rcases hp : step driver total p s with ⟨p₁, stop⟩
    rcases hq : step driver total' q s with ⟨q₁, stop'⟩
    rw [hp, hq] at hs
    simp only [hush, Prod.mk.injEq] at hs
    obtain ⟨hquiet, rfl⟩ := hs
    cases stop with
    -- both steps stop, or neither does
    | none => exact ih hquiet
    | some stop => exact congrArg (·, some stop) hquiet

end Run

variable {driver : Driver σ} {state : σ} {t : Template}

theorem trace_zero : t.trace driver state 0 = ({ state }, none) := by
  simp [Template.trace, steps]

/-- **One more statement.** -/
theorem trace_succ {n : ℕ} {s : Statement} (hs : t.statements[n]? = some s)
    (h : (t.trace driver state n).2 = none) :
    t.trace driver state (n + 1) =
      step driver t.statements.length (t.progressAt driver state n) s := by
  unfold Template.progressAt
  unfold Template.trace at h ⊢
  rw [List.take_add_one, hs, Option.toList_some, steps_append]
  rcases hr : steps driver t.statements.length (t.statements.take n) { state } with ⟨q, stop⟩
  rw [hr] at h
  simp only at h
  subst h
  simp only [steps]
  rcases step driver t.statements.length q s with ⟨q', _ | stop⟩ <;> rfl

/-- A run that has stopped goes no further. -/
theorem trace_stopped {n m : ℕ} (hnm : n ≤ m) {stop : Stop}
    (h : (t.trace driver state n).2 = some stop) :
    t.trace driver state m = t.trace driver state n := by
  unfold Template.trace at h ⊢
  -- the first `m` statements are the first `n` and some more
  have htake : t.statements.take m = t.statements.take n ++ (t.statements.take m).drop n := by
    have hd : (t.statements.take m).take n = t.statements.take n := by
      rw [List.take_take, Nat.min_eq_left hnm]
    rw [← hd, List.take_append_drop]
  rw [htake, steps_append]
  rcases hr : steps driver t.statements.length (t.statements.take n) { state } with ⟨q, stop'⟩
  rw [hr] at h
  simp only at h
  subst h; rfl

theorem trace_none_of_le {n m : ℕ} (hnm : n ≤ m) (h : (t.trace driver state m).2 = none) :
    (t.trace driver state n).2 = none := by
  cases hn : (t.trace driver state n).2 with
  | none => rfl
  | some stop => rw [trace_stopped hnm hn, hn] at h; cases h

/-- The run of the first `n` statements alone does what the whole run does up to there. -/
theorem trace_before (n : ℕ) :
    hush ((t.before n).trace driver state (t.before n).statements.length) =
      hush (t.trace driver state n) := by
  unfold Template.trace Template.before
  rw [List.take_length]
  exact steps_hush _ _ _ _ rfl

/-- The statements a run has recorded, as a scope: every bound name with its last value. -/
def Scope.ofStatements (ss : List Statement) : Scope :=
  Table.ofEntries (ss.filterMap Report.binding?)

theorem bindings_eq (r : Report) : r.bindings = Scope.ofStatements r.statements := rfl

theorem Scope.ofStatements_append (ss : List Statement) (s : Statement) :
    Scope.ofStatements (ss ++ [s]) =
      match Report.binding? s with
      | some (name, v) => (Scope.ofStatements ss).set name v
      | none => Scope.ofStatements ss := by
  unfold Scope.ofStatements
  rw [List.filterMap_append, List.filterMap_cons]
  rcases Report.binding? s with _ | ⟨name, v⟩
  · simp
  · exact Table.ofEntries_append _ _ _

theorem Scope.ofStatements_settled (ss : List Statement) (s : Statement) (o : Outcome) :
    Scope.ofStatements (ss ++ [s.settled o]) = (Scope.ofStatements ss).after s (boundValue o) := by
  rw [Scope.ofStatements_append, Statement.binding?_settled]
  unfold Scope.after
  cases s.declaredName? <;> rfl

theorem Scope.ofStatements_aborting (ss : List Statement) (s : Statement) (name : String) :
    Scope.ofStatements (ss ++ [s.aborting name]) = Scope.ofStatements ss := by
  rw [Scope.ofStatements_append, Statement.binding?_aborting]

namespace Run

/-- A step keeps the scope to what the recorded statements have bound. -/
theorem step_scope {total : ℕ} {p q : Progress σ} {s : Statement} {stop : Option Stop}
    (h : step driver total p s = (q, stop)) (hp : p.scope = Scope.ofStatements p.done) :
    q.scope = Scope.ofStatements q.done := by
  rcases step_cases h with ⟨name, -, ha⟩ | ⟨message, -, he⟩ | ⟨-, o, made, hs⟩
  · rw [ha.scope, ha.done, Scope.ofStatements_aborting, hp]
  · rw [he.scope, he.done, hp]
  · rw [hs.scope, hs.done, Scope.ofStatements_settled, hp]

theorem steps_scope {total : ℕ} (ss : List Statement) :
    ∀ {p : Progress σ}, p.scope = Scope.ofStatements p.done →
      (steps driver total ss p).1.scope = Scope.ofStatements (steps driver total ss p).1.done := by
  induction ss with
  | nil => intro p hp; exact hp
  | cons s ss ih =>
    intro p hp
    simp only [steps]
    rcases hr : step driver total p s with ⟨q, stop⟩
    have hq := step_scope hr hp
    cases stop with
    | none => exact ih hq
    | some stop => exact hq

end Run

/-- **The scope is what the recorded statements have bound.** -/
theorem scope_eq (n : ℕ) : (t.progressAt driver state n).scope =
    Scope.ofStatements (t.progressAt driver state n).done :=
  steps_scope _ rfl

/-! ## Statements that were settled -/

/-- **All that the next statement of a run can do.** -/
theorem trace_cases {n : ℕ} {s : Statement} (hs : t.statements[n]? = some s)
    (h : (t.trace driver state n).2 = none) :
    (∃ name, (t.trace driver state (n + 1)).2 = some (.undeclared name) ∧
      Aborted (t.progressAt driver state n) s name (t.progressAt driver state (n + 1))) ∨
    (∃ message, (t.trace driver state (n + 1)).2 = some (.exit message) ∧
      Exited driver (t.progressAt driver state n) message (t.progressAt driver state (n + 1))) ∨
    ((t.trace driver state (n + 1)).2 = none ∧ ∃ o made,
      Settles driver (t.progressAt driver state n) s o made
        (t.progressAt driver state (n + 1))) := by
  have hstep := trace_succ hs h
  unfold Template.progressAt at hstep ⊢
  rcases hr : t.trace driver state (n + 1) with ⟨q, stop⟩
  exact step_cases (hstep.symm.trans hr)

/-- A statement that did not stop the run was settled. -/
theorem trace_settles {n : ℕ} {s : Statement} (hs : t.statements[n]? = some s)
    (h : (t.trace driver state (n + 1)).2 = none) :
    ∃ o made, Settles driver (t.progressAt driver state n) s o made
      (t.progressAt driver state (n + 1)) := by
  rcases trace_cases hs (trace_none_of_le (Nat.le_succ n) h) with
    ⟨name, hstop, -⟩ | ⟨message, hstop, -⟩ | ⟨-, hsettles⟩
  · rw [h] at hstop; cases hstop
  · rw [h] at hstop; cases hstop
  · exact hsettles

/-- **The record grows by one statement at a time.** -/
theorem done_length {m : ℕ} (hm : m ≤ t.statements.length) (h : (t.trace driver state m).2 = none) :
    (t.progressAt driver state m).done.length = m := by
  induction m with
  | zero =>
    unfold Template.progressAt
    rw [trace_zero]; rfl
  | succ m ih =>
    have hs := List.getElem?_eq_getElem (show m < t.statements.length by omega)
    obtain ⟨o, made, hsettles⟩ := trace_settles hs h
    rw [hsettles.done, List.length_append, ih (by omega) (trace_none_of_le (Nat.le_succ m) h)]
    rfl

/-- An earlier record is the start of a later one. -/
theorem done_take {n m : ℕ} (hnm : n ≤ m) (hm : m ≤ t.statements.length)
    (h : (t.trace driver state m).2 = none) :
    (t.progressAt driver state m).done.take n = (t.progressAt driver state n).done := by
  induction m with
  | zero =>
    obtain rfl : n = 0 := by omega
    unfold Template.progressAt
    rw [trace_zero]; rfl
  | succ m ih =>
    have hlen := done_length hm h
    rcases Nat.eq_or_lt_of_le hnm with rfl | hnm
    · rw [List.take_of_length_le (by omega)]
    · have hs := List.getElem?_eq_getElem (show m < t.statements.length by omega)
      obtain ⟨o, made, hsettles⟩ := trace_settles hs h
      have hprev := trace_none_of_le (Nat.le_succ m) h
      have hbefore := done_length (show m ≤ t.statements.length by omega) hprev
      rw [hsettles.done, List.take_append_of_le_length (by omega)]
      exact ih (by omega) (by omega) hprev

/-- Requests are only ever added. -/
theorem exchanges_grow {n m : ℕ} (hnm : n ≤ m) (hm : m ≤ t.statements.length)
    (h : (t.trace driver state m).2 = none) :
    (t.progressAt driver state n).exchanges <+: (t.progressAt driver state m).exchanges := by
  induction m with
  | zero =>
    obtain rfl : n = 0 := by omega
    exact List.prefix_rfl
  | succ m ih =>
    rcases Nat.eq_or_lt_of_le hnm with rfl | hlt
    · exact List.prefix_rfl
    · have hs := List.getElem?_eq_getElem (show m < t.statements.length by omega)
      obtain ⟨o, made, hsettles⟩ := trace_settles hs h
      have hprev := ih (by omega) (by omega) (trace_none_of_le (Nat.le_succ m) h)
      rw [hsettles.exchanges]
      exact hprev.trans (List.prefix_append _ _)

/-- The recorded statements are those of the template, up to outcomes and bound values. -/
theorem done_fresh {n : ℕ} (hn : n ≤ t.statements.length) (h : (t.trace driver state n).2 = none) :
    (t.progressAt driver state n).done.map Statement.fresh =
      (t.before n).statements.map Statement.fresh := by
  induction n with
  | zero =>
    unfold Template.progressAt Template.before
    rw [trace_zero]; simp
  | succ n ih =>
    have hs := List.getElem?_eq_getElem (show n < t.statements.length by omega)
    obtain ⟨o, made, hsettles⟩ := trace_settles hs h
    have hprev := ih (by omega) (trace_none_of_le (Nat.le_succ n) h)
    unfold Template.before at hprev ⊢
    rw [hsettles.done, List.map_append, hprev, List.take_add_one, hs, Option.toList_some,
      List.map_append, List.map_singleton, List.map_singleton, Statement.fresh_settled]

/-- **Where a run stopped.** -/
theorem exists_stop {n : ℕ} {stop : Stop} (h : (t.trace driver state n).2 = some stop) :
    ∃ i s, i < n ∧ t.statements[i]? = some s ∧ (t.trace driver state i).2 = none ∧
      (t.trace driver state (i + 1)).2 = some stop := by
  induction n with
  | zero => rw [trace_zero] at h; cases h
  | succ n ih =>
    cases hn : (t.trace driver state n).2 with
    | some stop' =>
      -- it had stopped before
      have heq := trace_stopped (Nat.le_succ n) hn
      rw [heq] at h
      obtain ⟨i, s, hi, hs⟩ := ih h
      exact ⟨i, s, by omega, hs⟩
    | none =>
      cases hs : t.statements[n]? with
      | some s => exact ⟨n, s, by omega, hs, hn, h⟩
      | none =>
        -- past the last statement the trace does not change
        have hlen := List.getElem?_eq_none_iff.1 hs
        unfold Template.trace at h hn
        rw [List.take_of_length_le (by omega)] at h hn
        rw [hn] at h; cases h

/-! ## Whole runs -/

variable (id : String) (started finished : Time.Moment)

theorem conclude_quiet (r : Progress σ × Option Stop) :
    (conclude id started finished r).progress.quiet = r.1.quiet := by
  obtain ⟨p, _ | stop⟩ := r
  · rfl
  · cases stop <;> rfl

/-- **A run is the trace of all its statements**, concluded. -/
theorem run_trace : ∃ p stop, t.run driver state id started finished =
      conclude id started finished (p, stop) ∧
    p.quiet = (t.progressAt driver state t.statements.length).quiet ∧
    stop = (t.trace driver state t.statements.length).2 := by
  refine ⟨_, _, rfl, ?_⟩
  have h := steps_hush driver t.statements.length t.statements.length t.statements
    (p := Progress.note { state } .info
      ("Starting run " ++ id ++ " with " ++ toString t.statements.length ++ " statements"))
    (q := { state }) rfl
  unfold Template.progressAt Template.trace
  rw [List.take_length]
  simpa only [hush, Prod.mk.injEq] using h

/-- The requests made, the driver's state and the final scope of a run are those of its trace. -/
theorem run_quiet : (t.run driver state id started finished).progress.quiet =
    (t.progressAt driver state t.statements.length).quiet := by
  obtain ⟨p, stop, hrun, hp, -⟩ := @run_trace σ driver state t id started finished
  rw [hrun, conclude_quiet]; exact hp

theorem run_exchanges : (t.run driver state id started finished).progress.exchanges =
    (t.progressAt driver state t.statements.length).exchanges :=
  (Progress.quiet_eq_iff.1 (run_quiet id started finished)).2.2.2

theorem run_scope : (t.run driver state id started finished).progress.scope =
    (t.progressAt driver state t.statements.length).scope :=
  (Progress.quiet_eq_iff.1 (run_quiet id started finished)).2.1

/-- The run completes: every statement was settled. -/
structure Completes (driver : Driver σ) (state : σ) (t : Template) (r : Report) : Prop where
  trace : (t.trace driver state t.statements.length).2 = none
  statements : r.statements = (t.progressAt driver state t.statements.length).done
  aborted : r.aborted = ""

/-- The run is aborted at statement `i` by an undeclared name. -/
structure AbortsAt (driver : Driver σ) (state : σ) (t : Template) (i : ℕ) (s : Statement)
    (name : String) (r : Report) : Prop where
  statement : t.statements[i]? = some s
  before : (t.trace driver state i).2 = none
  trace : (t.trace driver state (i + 1)).2 = some (.undeclared name)
  step : Aborted (t.progressAt driver state i) s name (t.progressAt driver state (i + 1))
  statements : r.statements = (t.progressAt driver state (i + 1)).done
  aborted : r.aborted = undeclaredMessage name

theorem AbortsAt.final {i : ℕ} {s : Statement} {name : String} {r : Report}
    (h : AbortsAt driver state t i s name r) :
    t.progressAt driver state t.statements.length = t.progressAt driver state (i + 1) := by
  have hi := (List.getElem?_eq_some_iff.1 h.statement).1
  unfold Template.progressAt
  rw [trace_stopped hi h.trace]

/-- All requests of a run that is aborted were made before the statement that aborted it. -/
theorem AbortsAt.exchanges {i : ℕ} {s : Statement} {name : String} {r : Report}
    (h : AbortsAt driver state t i s name r) :
    (t.progressAt driver state t.statements.length).exchanges =
      (t.progressAt driver state i).exchanges := by
  rw [h.final, h.step.exchanges]

/-- **How a run ends**: a name is never found bound already. -/
theorem run_endings :
    (∃ r, (t.run driver state id started finished).ending = .complete r ∧
      Completes driver state t r) ∨
    (∃ i s name r, (t.run driver state id started finished).ending = .aborted name r ∧
      AbortsAt driver state t i s name r) ∨
    (∃ message, (t.run driver state id started finished).ending = .exited message ∧
      ∃ i request, i ≤ t.statements.length ∧ (t.trace driver state i).2 = none ∧
        (driver.perform (t.progressAt driver state i).state request).1.reply = .exit message) := by
  obtain ⟨p, stop, hrun, hp, hstop⟩ := @run_trace σ driver state t id started finished
  obtain ⟨-, -, hdone, -⟩ := Progress.quiet_eq_iff.1 hp
  rw [hrun]
  cases stop with
  | none => exact Or.inl ⟨_, rfl, hstop.symm, hdone, rfl⟩
  | some stop =>
    obtain ⟨i, s, hi, hs, hbefore, htrace⟩ := exists_stop hstop.symm
    rcases trace_cases hs hbefore with ⟨name, hname, ha⟩ | ⟨message, hname, he⟩ | ⟨hnone, -⟩
    · rw [htrace] at hname
      cases hname
      unfold Template.progressAt at hdone
      rw [trace_stopped hi htrace] at hdone
      exact Or.inr (Or.inl ⟨i, s, name, _, rfl, hs, hbefore, htrace, ha, hdone, rfl⟩)
    · rw [htrace] at hname
      cases hname
      obtain ⟨request, hreply⟩ := he.exits
      have hlen := (List.getElem?_eq_some_iff.1 hs).1
      exact Or.inr (Or.inr ⟨message, rfl, i, request, Nat.le_of_lt hlen, hbefore, hreply⟩)
    · rw [htrace] at hnone; cases hnone

/-- A run that nothing stopped completes. -/
theorem complete_of_trace (h : (t.trace driver state t.statements.length).2 = none) :
    ∃ r, (t.run driver state id started finished).ending = .complete r ∧
      Completes driver state t r := by
  obtain ⟨p, stop, hrun, hp, hstop⟩ := @run_trace σ driver state t id started finished
  obtain ⟨-, -, hdone, -⟩ := Progress.quiet_eq_iff.1 hp
  rw [h] at hstop
  subst hstop
  rw [hrun]
  exact ⟨_, rfl, h, hdone, rfl⟩

/-- A run of a single statement that can be handled. -/
theorem run_single {s : Statement} {o : Outcome} {made : List Exchange} {after : σ}
    (h : Handled driver [] state s o made after) :
    (Template.run driver state id started finished ⟨[s]⟩).ending =
      .complete { id, statements := [s.settled o], started, finished := some finished } := by
  obtain ⟨q, hstep, hsettles, -⟩ := settles_of_handled
    (p := Progress.note { state } .info ("Starting run " ++ id ++ " with " ++ toString 1 ++
      " statements")) h 1
  unfold Template.run
  simp only [List.length_singleton, steps, hstep, conclude, hsettles.done]
  rfl

/-- What it means that a run ended as a complete one. -/
theorem completes_of_ending {id : String} {started finished : Time.Moment} {r : Report}
    (h : (t.run driver state id started finished).ending = .complete r) :
    Completes driver state t r := by
  rcases @run_endings σ driver state t id started finished with
    ⟨r', hr, hc⟩ | ⟨i, s, name, r', hr, -⟩ | ⟨message, hr, -⟩
  · rw [hr] at h
    cases h
    exact hc
  · rw [hr] at h
    cases h
  · rw [hr] at h
    cases h

/-- **How a run ends** against a driver that never ends the program. -/
theorem run_cases (hd : driver.NeverExits) :
    (∃ r, (t.run driver state id started finished).ending = .complete r ∧
      Completes driver state t r) ∨
    (∃ i s name r, (t.run driver state id started finished).ending = .aborted name r ∧
      AbortsAt driver state t i s name r) := by
  rcases @run_endings σ driver state t id started finished with
    hc | ha | ⟨message, -, i, request, -, -, hreply⟩
  · exact Or.inl hc
  · exact Or.inr ha
  · exact absurd hreply (hd _ request message)

/-! ## Reports -/

/-- A report of a run of which `n` statements were settled: all of them, or all before the one
that aborted the run. -/
structure Reports (driver : Driver σ) (state : σ) (t : Template) (r : Report) (n : ℕ) : Prop where
  le : n ≤ t.statements.length
  trace : (t.trace driver state n).2 = none
  settled : r.statements.take n = (t.progressAt driver state n).done
  ending : (Completes driver state t r ∧ n = t.statements.length ∧ r.statements.length = n) ∨
    (∃ s name, AbortsAt driver state t n s name r ∧
      r.statements = (t.progressAt driver state n).done ++ [s.aborting name])

theorem Completes.reports {r : Report} (h : Completes driver state t r) :
    Reports driver state t r t.statements.length := by
  have hlen := done_length (Nat.le_refl _) h.trace
  refine ⟨Nat.le_refl _, h.trace, ?_, Or.inl ⟨h, rfl, by rw [h.statements, hlen]⟩⟩
  rw [h.statements, List.take_of_length_le (by omega)]

theorem AbortsAt.reports {i : ℕ} {s : Statement} {name : String} {r : Report}
    (h : AbortsAt driver state t i s name r) : Reports driver state t r i := by
  have hi := (List.getElem?_eq_some_iff.1 h.statement).1
  have hlen := done_length (show i ≤ _ by omega) h.before
  have hst : r.statements = (t.progressAt driver state i).done ++ [s.aborting name] := by
    rw [h.statements, h.step.done]
  refine ⟨by omega, h.before, ?_, Or.inr ⟨s, name, h, hst⟩⟩
  rw [hst, List.take_append_of_le_length (by omega), List.take_of_length_le (by omega)]

/-- Every run against a driver that never ends the program has a report. -/
theorem exists_report (hd : driver.NeverExits) :
    ∃ r n, (t.run driver state id started finished).ending.report? = some r ∧
      Reports driver state t r n := by
  rcases @run_cases σ driver state t id started finished hd with
    ⟨r, hr, hc⟩ | ⟨i, s, name, r, hr, ha⟩
  · exact ⟨r, _, by rw [hr]; rfl, hc.reports⟩
  · exact ⟨r, i, by rw [hr]; rfl, ha.reports⟩

variable {id started finished} {r : Report} {n : ℕ}

theorem Reports.exists_statement (h : Reports driver state t r n) {k : ℕ} (hk : k < n) :
    ∃ s, t.statements[k]? = some s :=
  ⟨_, List.getElem?_eq_getElem (Nat.lt_of_lt_of_le hk h.le)⟩

/-- **A statement of the report that was settled.** -/
theorem Reports.settles (h : Reports driver state t r n) {k : ℕ} (hk : k < n) {s : Statement}
    (hs : t.statements[k]? = some s) :
    ∃ o made, r.statements[k]? = some (s.settled o) ∧
      Settles driver (t.progressAt driver state k) s o made
        (t.progressAt driver state (k + 1)) := by
  have hnext := trace_none_of_le hk h.trace
  obtain ⟨o, made, hsettles⟩ := trace_settles hs hnext
  refine ⟨o, made, ?_, hsettles⟩
  have hlen := done_length (Nat.le_trans (Nat.le_of_lt hk) h.le)
    (trace_none_of_le (Nat.le_succ k) hnext)
  -- what was recorded right after the statement is still there in the report
  have hrec := done_take hk h.le h.trace
  rw [← h.settled, List.take_take, Nat.min_eq_left hk, hsettles.done] at hrec
  rw [← List.getElem?_take_of_lt (Nat.lt_succ_self k), hrec]
  simp [hlen]

/-- The scope before a statement is what the report binds up to there. -/
theorem Reports.scope (h : Reports driver state t r n) {k : ℕ} (hk : k ≤ n) :
    (t.progressAt driver state k).scope = Scope.ofStatements (r.statements.take k) := by
  rw [scope_eq, ← done_take hk h.le h.trace, ← h.settled, List.take_take, Nat.min_eq_left hk]

theorem Reports.le_of_lt_length (h : Reports driver state t r n) {k : ℕ}
    (hk : k < r.statements.length) : k ≤ n := by
  rcases h.ending with ⟨-, -, hlen⟩ | ⟨s, name, -, hst⟩
  · omega
  · have hdone := done_length h.le h.trace
    rw [hst, List.length_append, hdone] at hk
    exact Nat.le_of_lt_succ hk

/-- A statement of a report that was not settled is the one that aborted the run. -/
theorem Reports.aborting (h : Reports driver state t r n) (hn : n < r.statements.length) :
    ∃ s name, AbortsAt driver state t n s name r ∧ r.statements[n]? = some (s.aborting name) := by
  rcases h.ending with ⟨-, -, hlen⟩ | ⟨s, name, ha, hst⟩
  · omega
  · have hdone := done_length h.le h.trace
    refine ⟨s, name, ha, ?_⟩
    rw [hst, List.getElem?_append_right (by omega), hdone, Nat.sub_self]
    rfl

/-- Every statement of a report but the one that aborted the run was settled. -/
theorem Reports.lt_of_not_aborting (h : Reports driver state t r n) {k : ℕ}
    (hk : k < r.statements.length) (hna : r.aborted = "" ∨ k + 1 < r.statements.length) :
    k < n := by
  rcases h.ending with ⟨-, -, hlen⟩ | ⟨s, name, ha, hst⟩
  · omega
  · rcases hna with hna | hna
    · rw [ha.aborted] at hna
      exact absurd hna (undeclaredMessage_ne_empty name)
    · have hdone := done_length h.le h.trace
      rw [hst, List.length_append, hdone] at hna
      exact Nat.lt_of_succ_lt_succ hna

/-- **The bindings of a report are the final scope of its run.** -/
theorem Reports.bindings (h : Reports driver state t r n) :
    r.bindings = (t.progressAt driver state t.statements.length).scope := by
  rw [scope_eq, bindings_eq]
  rcases h.ending with ⟨hc, -, -⟩ | ⟨s, name, ha, -⟩
  · rw [hc.statements]
  · rw [ha.statements, ha.final]

/-- All requests of a run were made for statements that were settled. -/
theorem Reports.exchanges (h : Reports driver state t r n) :
    (t.progressAt driver state t.statements.length).exchanges =
      (t.progressAt driver state n).exchanges := by
  rcases h.ending with ⟨-, hn, -⟩ | ⟨s, name, ha, -⟩
  · rw [hn]
  · exact ha.exchanges

/-- A statement that was not settled made no request. -/
theorem Reports.lt_of_asked (h : Reports driver state t r n) {k : ℕ}
    (hk : k < t.statements.length)
    (hask : (t.progressAt driver state (k + 1)).exchanges ≠
      (t.progressAt driver state k).exchanges) : k < n := by
  rcases Nat.lt_or_ge k n with hlt | hge
  · exact hlt
  · -- at or after the statement that aborted the run, no request is made
    refine absurd ?_ hask
    rcases h.ending with ⟨-, hn, -⟩ | ⟨s, name, ha, -⟩
    · omega
    · rcases Nat.eq_or_lt_of_le hge with rfl | hlt
      · exact ha.step.exchanges
      · unfold Template.progressAt
        rw [trace_stopped (show n + 1 ≤ k + 1 by omega) ha.trace, trace_stopped hlt ha.trace]

end Provision
