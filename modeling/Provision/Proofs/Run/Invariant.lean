import Provision.Proofs.Driver.Leaves
import Provision.Proofs.Run.Abort

/-!
# What a run keeps of the state of its driver

A property of a driver's states is **safe** if every request keeps it and no request in such a
state ends the program. A run from such a state ends with all statements settled, or at the first
dangling one, as if the driver never ended the program at all.

* `Driver.Safe.run`: the property holds to the end of a run, and at every request.
* `Driver.Safe.run_cases`: how the run ends.
* `Driver.Safe.aborted_iff`: whether and where it is aborted is decided by the template alone.
* `Reports.same_length`: how many statements are settled does not depend on the driver.
* `Tree.safe_returns`: that all functions of a tree return is safe.
-/

namespace Provision

open Run

variable {σ : Type} {driver : Driver σ} {I : σ → Prop}

/-- Every request keeps the property, and none ends the program. -/
structure Driver.Safe (driver : Driver σ) (I : σ → Prop) : Prop where
  next : ∀ {state : σ} (request : Request), I state → I (driver.perform state request).2
  returns : ∀ {state : σ} (request : Request) (message : String), I state →
    (driver.perform state request).1.reply ≠ .exit message

/-- The exchange is what the driver answers in a state with the property. -/
def Run.Exchange.AnsweredIn (driver : Driver σ) (I : σ → Prop) (x : Exchange) : Prop :=
  ∃ midway, I midway ∧ (driver.perform midway x.request).1 = x.response

/-- At most one statement of a template is the first dangling one. -/
theorem Template.first_dangling_unique (t : Template) {i j : ℕ} (hi : t.Dangling i)
    (hfirst : ∀ k < i, ¬ t.Dangling k) (hj : t.Dangling j) (hfirst' : ∀ k < j, ¬ t.Dangling k) :
    i = j := by
  rcases Nat.lt_trichotomy i j with h | h | h
  · exact absurd hi (hfirst' i h)
  · exact h
  · exact absurd hj (hfirst j h)

namespace Driver.Safe

/-- What one statement does to the state of the driver. -/
theorem handled (hI : driver.Safe I) {scope : Scope} {state after : σ} {s : Statement}
    {o : Outcome} {made : List Exchange} (h : Handled driver scope state s o made after)
    (h0 : I state) : I after ∧ ∀ x ∈ made, x.AnsweredIn driver I := by
  by_cases hmade : made = []
  · cases h with
    | blocked obstacle hb => exact ⟨h0, List.forall_mem_nil _⟩
    | raised => cases hmade
    | returned => cases hmade
  · obtain ⟨params, response, rfl, hperf, -⟩ := h.ready hmade
    have hnext := hI.next (s.request params) h0
    rw [hperf] at hnext
    refine ⟨hnext, fun x hx => ⟨state, h0, ?_⟩⟩
    rw [List.mem_singleton.1 hx, hperf]

variable {state : σ} {t : Template}

/-- **The property holds as far as a run goes**, and at every request on the way. -/
theorem progressAt (hI : driver.Safe I) (h0 : I state) {n : ℕ} (hn : n ≤ t.statements.length)
    (h : (t.trace driver state n).2 = none) :
    I (t.progressAt driver state n).state ∧
      ∀ x ∈ (t.progressAt driver state n).exchanges, x.AnsweredIn driver I := by
  induction n with
  | zero =>
    unfold Template.progressAt
    rw [trace_zero]
    exact ⟨h0, List.forall_mem_nil _⟩
  | succ n ih =>
    have hs := List.getElem?_eq_getElem (show n < t.statements.length by omega)
    obtain ⟨hstate, hearlier⟩ := ih (by omega) (trace_none_of_le (Nat.le_succ n) h)
    obtain ⟨o, made, hsettles⟩ := trace_settles hs h
    obtain ⟨hafter, hmade⟩ := hI.handled hsettles.handled hstate
    rw [hsettles.exchanges]
    exact ⟨hafter, List.forall_mem_append.2 ⟨hearlier, hmade⟩⟩

variable (id : String) (started finished : Time.Moment)

/-- **How a run ends** from a state with a safe property. -/
theorem run_cases (hI : driver.Safe I) (h0 : I state) :
    (∃ r, (t.run driver state id started finished).ending = .complete r ∧
      Completes driver state t r) ∨
    (∃ i s name r, (t.run driver state id started finished).ending = .aborted name r ∧
      AbortsAt driver state t i s name r) := by
  rcases @run_endings σ driver state t id started finished with
    hc | ha | ⟨message, -, i, request, hi, hbefore, hreply⟩
  · exact Or.inl hc
  · exact Or.inr ha
  · exact absurd hreply (hI.returns request message (hI.progressAt h0 hi hbefore).1)

theorem exists_report (hI : driver.Safe I) (h0 : I state) :
    ∃ r n, (t.run driver state id started finished).ending.report? = some r ∧
      Reports driver state t r n := by
  rcases @run_cases σ driver I state t id started finished hI h0 with
    ⟨r, hr, hc⟩ | ⟨i, s, name, r, hr, ha⟩
  · exact ⟨r, _, by rw [hr]; rfl, hc.reports⟩
  · exact ⟨r, i, by rw [hr]; rfl, ha.reports⟩

/-- **Whether and where a run is aborted** is decided by the template alone. -/
theorem aborted_iff (hI : driver.Safe I) (h0 : I state) (name : String) (k : ℕ) :
    (∃ r, (t.run driver state id started finished).ending = .aborted name r ∧
      r.statements.length = k) ↔
    ∃ i s, k = i + 1 ∧ t.statements[i]? = some s ∧
      s.expression.FirstUndeclared (t.before i).declaredNames name ∧
      t.Dangling i ∧ ∀ j < i, ¬ t.Dangling j := by
  rcases @run_cases σ driver I state t id started finished hI h0 with
    ⟨r, hr, hc⟩ | ⟨i, s, name', r, hr, ha⟩
  · refine iff_of_false ?_ ?_
    · rintro ⟨r', hr', -⟩
      rw [hr] at hr'
      cases hr'
    · rintro ⟨i, s, -, -, -, hdang, -⟩
      exact hc.not_dangling i hdang
  · have hi := (List.getElem?_eq_some_iff.1 ha.statement).1
    have hname := firstUndeclared_iff (Nat.le_of_lt hi) ha.before s.expression
    have hlen : r.statements.length = i + 1 := by
      rw [ha.statements, ha.step.done, List.length_append, done_length (by omega) ha.before]
      rfl
    obtain ⟨hdang, hfirst⟩ := ha.dangling
    constructor
    · rintro ⟨r', hr', rfl⟩
      rw [hr] at hr'
      cases hr'
      exact ⟨i, s, hlen, ha.statement, (hname _).1 ha.step.undeclared, hdang, hfirst⟩
    · rintro ⟨i', s', rfl, hs', hname', hdang', hfirst'⟩
      -- there is one first dangling statement, and in it one first undeclared name
      obtain rfl : i' = i := t.first_dangling_unique hdang' hfirst' hdang hfirst
      obtain rfl : s = s' := Option.some.inj (ha.statement.symm.trans hs')
      obtain rfl : name' = name :=
        Option.some.inj (ha.step.undeclared.symm.trans ((hname name).2 hname'))
      exact ⟨r, hr, hlen⟩

/-- **The property holds to the end of a run**, and at every request of it. -/
theorem run (hI : driver.Safe I) (h0 : I state) :
    I (t.run driver state id started finished).progress.state ∧
      ∀ x ∈ (t.run driver state id started finished).progress.exchanges,
        x.AnsweredIn driver I := by
  obtain ⟨hstate, -, -, hmade⟩ := Progress.quiet_eq_iff.1
    (@run_quiet σ driver state t id started finished)
  rw [hstate, hmade]
  rcases @run_cases σ driver I state t id started finished hI h0 with
    ⟨r, -, hc⟩ | ⟨i, s, name, r, -, ha⟩
  · exact hI.progressAt h0 (Nat.le_refl _) hc.trace
  · -- the statement that aborts a run leaves the driver as it was
    have hi := (List.getElem?_eq_some_iff.1 ha.statement).1
    rw [ha.final, ha.step.state, ha.step.exchanges]
    exact hI.progressAt h0 (by omega) ha.before

end Driver.Safe

/-- Two runs of one template settle the same number of statements, whatever their drivers. -/
theorem Reports.same_length {σ' : Type} {driver' : Driver σ'} {state : σ} {state' : σ'}
    {t : Template} {r r' : Report} {n n' : ℕ} (h : Reports driver state t r n)
    (h' : Reports driver' state' t r' n') :
    n = n' ∧ r.statements.length = r'.statements.length := by
  rcases h.ending with ⟨hc, hn, hlen⟩ | ⟨s, name, ha, hst⟩
  · rcases h'.ending with ⟨hc', hn', hlen'⟩ | ⟨s', name', ha', hst'⟩
    · omega
    · exact absurd ha'.dangling.1 (hc.not_dangling n')
  · rcases h'.ending with ⟨hc', hn', hlen'⟩ | ⟨s', name', ha', hst'⟩
    · exact absurd ha.dangling.1 (hc'.not_dangling n)
    · obtain ⟨hdang, hfirst⟩ := ha.dangling
      obtain ⟨hdang', hfirst'⟩ := ha'.dangling
      obtain rfl : n = n' := t.first_dangling_unique hdang hfirst hdang' hfirst'
      have hlen := done_length h.le h.trace
      have hlen' := done_length h'.le h'.trace
      refine ⟨rfl, ?_⟩
      rw [hst, hst', List.length_append, List.length_append, hlen, hlen']
      rfl

theorem Tree.safe_returns {κ : Type} : (Tree.driver (κ := κ)).Safe Tree.Returns where
  next _ h := h.after
  returns request message h := h.reply_ne_exit request message

end Provision
