import Provision.Proofs.Run.Trace

/-!
# Where a run is aborted

Whatever the driver answers, the names in scope before a statement are those that the statements
before it declare (`has_scope_iff`): a failed declaration binds its name all the same. So it is
the template alone that decides whether a run is aborted, and where: at the first statement that
is **dangling**, which has a reference to a name that no earlier statement declares.

* `trace_none_iff`: a run gets past its first `n` statements iff none of them is dangling.
* `run_aborts_at_first_dangling`: **whether, where and how a run is aborted.**
-/

namespace Provision

open Run

/-- Statement `i` has a reference to a name that no earlier statement declares. -/
def Template.Dangling (t : Template) (i : ℕ) : Prop :=
  ∃ s, t.statements[i]? = some s ∧
    ∃ name ∈ s.expression.refs.values, name ∉ (t.before i).declaredNames

/-- The first reference, in order, to a name that is not declared. -/
def Expression.FirstUndeclared (e : Expression) (declared : List String) (name : String) : Prop :=
  ∃ earlier later, e.refs.values = earlier ++ name :: later ∧
    (∀ n ∈ earlier, n ∈ declared) ∧ name ∉ declared

variable {σ : Type} {driver : Driver σ} {state : σ} {t : Template}

theorem declaredNames_before_succ {n : ℕ} {s : Statement} (hs : t.statements[n]? = some s) :
    (t.before (n + 1)).declaredNames = (t.before n).declaredNames ++ s.declaredName?.toList := by
  unfold Template.declaredNames Template.before
  rw [List.take_add_one, hs, Option.toList_some, List.filterMap_append]
  rfl

theorem Scope.has_after (scope : Scope) (s : Statement) (v : Value) (name : String) :
    (scope.after s v).has name = true ↔ scope.has name = true ∨ s.declaredName? = some name := by
  unfold Scope.after Scope.bind
  cases s.declaredName? with
  | none => simp
  | some declared =>
    rw [Table.has_iff_mem_keys, Table.mem_keys_set, Table.has_iff_mem_keys, Option.some.injEq,
      or_comm, eq_comm]

/-- **The names in scope** before a statement are those declared before it. -/
theorem has_scope_iff {n : ℕ} (hn : n ≤ t.statements.length)
    (h : (t.trace driver state n).2 = none) (name : String) :
    (t.progressAt driver state n).scope.has name = true ↔ name ∈ (t.before n).declaredNames := by
  induction n with
  | zero =>
    unfold Template.progressAt Template.before
    rw [trace_zero]; simp [Table.has, Table.get?, Template.declaredNames]
  | succ n ih =>
    have hs := List.getElem?_eq_getElem (show n < t.statements.length by omega)
    have hprev := ih (by omega) (trace_none_of_le (Nat.le_succ n) h)
    obtain ⟨o, made, hsettles⟩ := trace_settles hs h
    -- one more name is bound, whatever the outcome was
    rw [hsettles.scope, Scope.has_after, declaredNames_before_succ hs, List.mem_append, hprev,
      Option.mem_toList]

theorem firstUndeclared_iff {n : ℕ} (hn : n ≤ t.statements.length)
    (h : (t.trace driver state n).2 = none) (e : Expression) (name : String) :
    e.undeclared? (t.progressAt driver state n).scope = some name ↔
      e.FirstUndeclared (t.before n).declaredNames name := by
  unfold Expression.undeclared? Expression.FirstUndeclared
  rw [List.find?_eq_some_iff_append]
  simp only [← has_scope_iff hn h, Bool.not_eq_true', Bool.not_not, Bool.not_eq_true]
  constructor
  · rintro ⟨hname, earlier, later, hrefs, hearlier⟩
    exact ⟨earlier, later, hrefs, hearlier, hname⟩
  · rintro ⟨earlier, later, hrefs, hearlier, hname⟩
    exact ⟨hname, earlier, later, hrefs, hearlier⟩

/-- A statement reached by the run is dangling iff a name is found undeclared in its scope. -/
theorem dangling_iff {n : ℕ} {s : Statement} (hs : t.statements[n]? = some s)
    (h : (t.trace driver state n).2 = none) :
    t.Dangling n ↔ s.expression.undeclared? (t.progressAt driver state n).scope ≠ none := by
  have hlen := (List.getElem?_eq_some_iff.1 hs).1
  unfold Template.Dangling Expression.undeclared?
  rw [ne_eq, List.find?_eq_none, hs]
  simp only [Option.some.injEq, exists_eq_left', not_forall, Bool.not_eq_true',
    ← Bool.not_eq_true, has_scope_iff (Nat.le_of_lt hlen) h]
  simp

/-- A run that gets past its first `n` statements finds none of them dangling. -/
theorem not_dangling_of_trace {n : ℕ} (h : (t.trace driver state n).2 = none) {j : ℕ}
    (hj : j < n) (hlen : j < t.statements.length) : ¬ t.Dangling j := by
  have hs := List.getElem?_eq_getElem hlen
  have hnext := trace_none_of_le hj h
  obtain ⟨o, made, hsettles⟩ := trace_settles hs hnext
  rw [dangling_iff hs (trace_none_of_le (Nat.le_succ j) hnext), not_not]
  exact hsettles.handled.undeclared?_eq_none

/-- **A run gets past its first `n` statements iff none of them is dangling.** -/
theorem trace_none_iff (hd : driver.NeverExits) {n : ℕ} (hn : n ≤ t.statements.length) :
    (t.trace driver state n).2 = none ↔ ∀ j < n, ¬ t.Dangling j := by
  refine ⟨fun h j hj => not_dangling_of_trace h hj (by omega), ?_⟩
  induction n with
  | zero => intro _; rw [trace_zero]
  | succ n ih =>
    intro h
    have hs := List.getElem?_eq_getElem (show n < t.statements.length by omega)
    have hbefore := ih (by omega) fun j hj => h j (by omega)
    -- of the three things a statement can do, the first needs it dangling, the second an exit
    rcases trace_cases hs hbefore with ⟨name, -, ha⟩ | ⟨message, -, he⟩ | ⟨hnone, -⟩
    · refine absurd ((dangling_iff hs hbefore).2 ?_) (h n (by omega))
      rw [ha.undeclared]; simp
    · obtain ⟨request, hreply⟩ := he.exits
      exact absurd hreply (hd _ request message)
    · exact hnone

theorem not_dangling_of_length_le {i : ℕ} (h : t.statements.length ≤ i) : ¬ t.Dangling i := by
  rintro ⟨s, hs, -⟩
  rw [List.getElem?_eq_none h] at hs; cases hs

/-- A run that completes has no dangling statement. -/
theorem Completes.not_dangling {r : Report} (h : Completes driver state t r) (i : ℕ) :
    ¬ t.Dangling i := by
  rcases Nat.lt_or_ge i t.statements.length with hi | hi
  · exact not_dangling_of_trace h.trace hi hi
  · exact not_dangling_of_length_le hi

/-- The report of a run that completes has the statements of the template. -/
theorem Completes.fresh {r : Report} (h : Completes driver state t r) :
    r.statements.length = t.statements.length ∧
      r.statements.map Statement.fresh = t.statements.map Statement.fresh := by
  have hlen := done_length (Nat.le_refl _) h.trace
  have hfresh := done_fresh (Nat.le_refl _) h.trace
  unfold Template.before at hfresh
  rw [List.take_length] at hfresh
  rw [h.statements]
  exact ⟨hlen, hfresh⟩

/-- A run that is aborted at statement `i` has `i` as its first dangling statement. -/
theorem AbortsAt.dangling {i : ℕ} {s : Statement} {name : String} {r : Report}
    (h : AbortsAt driver state t i s name r) : t.Dangling i ∧ ∀ j < i, ¬ t.Dangling j := by
  have hlen := (List.getElem?_eq_some_iff.1 h.statement).1
  refine ⟨(dangling_iff h.statement h.before).2 ?_,
    fun j hj => not_dangling_of_trace h.before hj (by omega)⟩
  rw [h.step.undeclared]; simp

variable (id : String) (started finished : Time.Moment)

/-- The run of the first `n` statements alone completes if the whole run gets past them. -/
theorem before_completes (hd : driver.NeverExits) {n : ℕ}
    (h : (t.trace driver state n).2 = none) :
    ∃ r, ((t.before n).run driver state id started finished).ending = .complete r ∧
      r.statements = (t.progressAt driver state n).done ∧
      ((t.before n).run driver state id started finished).progress.quiet =
        (t.progressAt driver state n).quiet := by
  have htrace := @trace_before σ driver state t n
  simp only [hush, Prod.mk.injEq] at htrace
  obtain ⟨hquiet, hstop⟩ := htrace
  obtain ⟨-, -, hdone, -⟩ := Progress.quiet_eq_iff.1 hquiet
  rcases @run_cases σ driver state (t.before n) id started finished hd with
    ⟨r, hr, hc⟩ | ⟨i, s, name, r, hr, ha⟩
  · exact ⟨r, hr, hc.statements.trans hdone, (run_quiet id started finished).trans hquiet⟩
  · have hi := (List.getElem?_eq_some_iff.1 ha.statement).1
    have hend := trace_none_of_le (show i + 1 ≤ _ from hi) (hstop.trans h)
    rw [ha.trace] at hend; cases hend

/-- **Whether, where and how a run is aborted** is decided by the template alone. -/
theorem run_aborts_at_first_dangling (hd : driver.NeverExits) :
    ((∃ name r, (t.run driver state id started finished).ending = .aborted name r) ↔
      ∃ i, t.Dangling i) ∧
    (∀ i, t.Dangling i → (∀ j < i, ¬ t.Dangling j) → ∃ s name r prior last,
      t.statements[i]? = some s ∧
      s.expression.FirstUndeclared (t.before i).declaredNames name ∧
      (t.run driver state id started finished).ending = .aborted name r ∧
      r.aborted = undeclaredMessage name ∧
      ((t.before i).run driver state id started finished).ending = .complete prior ∧
      prior.statements.length = i ∧
      r.statements = prior.statements ++ [last] ∧
      last.fresh = s.fresh ∧
      last.outcome.error = undeclaredMessage name ∧
      (∀ ident, last.identifier? = some ident → ident.bound = false) ∧
      (t.run driver state id started finished).progress.exchanges =
        ((t.before i).run driver state id started finished).progress.exchanges) ∧
    ((∀ i, ¬ t.Dangling i) → ∃ r,
      (t.run driver state id started finished).ending = .complete r ∧
      r.aborted = "" ∧
      r.statements.length = t.statements.length ∧
      r.statements.map Statement.fresh = t.statements.map Statement.fresh) := by
  rcases @run_cases σ driver state t id started finished hd with
    ⟨r, hr, hc⟩ | ⟨i, s, name, r, hr, ha⟩
  · have hnone := hc.not_dangling
    refine ⟨⟨?_, fun ⟨i, hi⟩ => absurd hi (hnone i)⟩, fun i hi => absurd hi (hnone i),
      fun _ => ⟨r, hr, hc.aborted, hc.fresh⟩⟩
    rintro ⟨name, r', hr'⟩
    rw [hr] at hr'; cases hr'
  · obtain ⟨hdang, hfirst⟩ := ha.dangling
    refine ⟨⟨fun _ => ⟨i, hdang⟩, fun _ => ⟨name, r, hr⟩⟩, ?_, fun h => absurd hdang (h i)⟩
    intro j hj hjfirst
    -- the least dangling statement is where the run was aborted
    obtain rfl : j = i := by
      rcases Nat.lt_trichotomy j i with h | h | h
      · exact absurd hj (hfirst j h)
      · exact h
      · exact absurd hdang (hjfirst i h)
    have hlen := (List.getElem?_eq_some_iff.1 ha.statement).1
    obtain ⟨prior, hprior, hstatements, hquiet⟩ :=
      before_completes id started finished hd ha.before
    obtain ⟨-, -, -, hmade⟩ := Progress.quiet_eq_iff.1 hquiet
    refine ⟨s, name, r, prior, s.aborting name, ha.statement,
      (firstUndeclared_iff (by omega) ha.before _ _).1 ha.step.undeclared, hr, ha.aborted, hprior,
      ?_, ?_, s.fresh_aborting name, rfl, fun ident => Statement.unbound_aborting, ?_⟩
    · rw [hstatements]; exact done_length (by omega) ha.before
    · rw [ha.statements, ha.step.done, hstatements]
    · rw [run_exchanges, hmade, ha.exchanges]

/-- Creating a network fails, as if the backend missed a name; all else succeeds. -/
def networkless : Driver Unit where
  perform state request :=
    ({ reply := if request.entity = "network" then .fault (.undeclared "ghost")
        else .value (.text request.entity) }, state)

/-- The third statement refers to itself, and then to a name that is never declared. -/
def selfReferring : Template where
  statements :=
    [{ node := .declaration { name := "net" } { action := "create", entity := "network" } },
     { node := .declaration { name := "sub" }
        { action := "create", entity := "subnet", refs := [("network", "net")] } },
     { node := .declaration { name := "vm" }
        { action := "create", entity := "server",
          refs := [("subnet", "sub"), ("peer", "vm"), ("disk", "data")] } }]

theorem networkless_neverExits : networkless.NeverExits := by
  intro _ request message
  unfold networkless
  simp only
  split <;> simp

theorem run_aborts_at_self_reference : networkless.NeverExits ∧ ∃ r,
    (selfReferring.run networkless () "run" default default).ending = .aborted "vm" r ∧
      r.statements.length = 3 := by
  have hdang : selfReferring.Dangling 2 := ⟨_, rfl, "vm", by decide, by decide⟩
  have hfirst : ∀ j < 2, ¬ selfReferring.Dangling j := by
    rintro j hj ⟨s, hs, name, hname, hfree⟩
    have hj' : j = 0 ∨ j = 1 := by omega
    rcases hj' with rfl | rfl
    · cases hs; cases hname
    · cases hs
      rcases List.mem_singleton.1 hname with rfl
      exact hfree (by decide)
  obtain ⟨s, name, r, prior, last, hs, ⟨earlier, later, hrefs, hearlier, hname⟩, hr, -, -, hlen,
    hst, -⟩ := (run_aborts_at_first_dangling "run" default default networkless_neverExits).2.1
      2 hdang hfirst
  cases hs
  refine ⟨networkless_neverExits, r, ?_, by rw [hst]; simp [hlen]⟩
  -- `sub` is declared, so the first undeclared name is the statement's own
  obtain _ | ⟨first, _ | ⟨second, rest⟩⟩ := earlier
  · cases hrefs
    exact absurd (by decide) hname
  · cases hrefs
    exact hr
  · obtain rfl : "vm" = second := (List.cons.inj (List.cons.inj hrefs).2).1
    exact absurd (hearlier "vm" (by simp)) (by decide)

end Provision
