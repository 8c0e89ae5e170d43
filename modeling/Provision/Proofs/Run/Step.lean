import Provision.Proofs.Table
import Provision.Run.Basic

/-!
# One statement of a run

`step_cases` says all that a step can do, its log aside. A statement with a reference to an
undeclared name stops the run without a request (`Aborted`). A statement that is blocked, or
answered with a value or a fault, is settled: it is recorded with its outcome and its name is
bound (`Settles`). A backend that ends the program stops the run (`Exited`). A name is never
found bound already, since the statement that is executed is a fresh copy.

What a step does depends on neither its log nor the number of all statements (`step_hush`).
-/

namespace Provision

/-- The name a statement declares. -/
def Statement.declaredName? (s : Statement) : Option String := s.identifier?.map (·.name)

/-- The node with its name bound to a value. -/
def Node.boundTo (v : Value) : Node → Node
  | .expression e => .expression e
  | .declaration left right => .declaration { name := left.name, value := v, bound := true } right

/-- The statement as it is recorded with an outcome: its name is bound. -/
def Statement.settled (s : Statement) (o : Outcome) : Statement :=
  { s with node := s.node.boundTo (Run.boundValue o), outcome := o }

/-- The statement as it is recorded when it refers to an undeclared name: nothing is bound. -/
def Statement.aborting (s : Statement) (name : String) : Statement :=
  { s.fresh with outcome := { error := undeclaredMessage name } }

/-- The scope after a statement has got a value. -/
def Scope.after (scope : Scope) (s : Statement) (v : Value) : Scope :=
  match s.declaredName? with
  | some name => scope.bind name v
  | none => scope

/-- The request of a statement with given parameters. -/
def Statement.request (s : Statement) (params : Table Value) : Request :=
  ⟨s.expression.action, s.expression.entity, params⟩

theorem undeclaredMessage_ne_empty (name : String) : undeclaredMessage name ≠ "" := by
  unfold undeclaredMessage
  simp [String.append_eq_empty_iff]

/-- A driver that answers every request with a value or a fault. -/
def Driver.NeverExits {σ : Type} (driver : Driver σ) : Prop :=
  ∀ state request message, (driver.perform state request).1.reply ≠ .exit message

@[simp] theorem Statement.expression_fresh (s : Statement) : s.fresh.expression = s.expression := by
  obtain ⟨node, line, outcome⟩ := s
  cases node <;> rfl

@[simp] theorem Statement.expression_settled (s : Statement) (o : Outcome) :
    (s.settled o).expression = s.expression := by
  obtain ⟨node, line, outcome⟩ := s
  cases node <;> rfl

@[simp] theorem Statement.fresh_settled (s : Statement) (o : Outcome) :
    (s.settled o).fresh = s.fresh := by
  obtain ⟨node, line, outcome⟩ := s
  cases node <;> rfl

@[simp] theorem Statement.fresh_aborting (s : Statement) (name : String) :
    (s.aborting name).fresh = s.fresh := by
  obtain ⟨node, line, outcome⟩ := s
  cases node <;> rfl

@[simp] theorem Statement.outcome_settled (s : Statement) (o : Outcome) :
    (s.settled o).outcome = o := rfl

/-- A settled statement that declares a name has it bound. -/
theorem Statement.identifier?_settled (s : Statement) (o : Outcome) :
    (s.settled o).identifier? = s.declaredName?.map fun name =>
      { name, value := Run.boundValue o, bound := true } := by
  obtain ⟨node, line, outcome⟩ := s
  cases node <;> rfl

theorem Statement.identifier?_aborting (s : Statement) (name : String) :
    (s.aborting name).identifier? = s.declaredName?.map fun name => { name } := by
  obtain ⟨node, line, outcome⟩ := s
  cases node <;> rfl

theorem Statement.binding?_settled (s : Statement) (o : Outcome) :
    Report.binding? (s.settled o) = s.declaredName?.map fun name => (name, Run.boundValue o) := by
  unfold Report.binding?
  rw [identifier?_settled]
  cases s.declaredName? <;> rfl

theorem Statement.binding?_aborting (s : Statement) (name : String) :
    Report.binding? (s.aborting name) = none := by
  unfold Report.binding?
  rw [identifier?_aborting]
  cases s.declaredName? <;> rfl

theorem Statement.bound_settled {s : Statement} {o : Outcome} {i : Identifier}
    (h : (s.settled o).identifier? = some i) : i.bound = true ∧ i.value = Run.boundValue o := by
  rw [identifier?_settled] at h
  obtain ⟨name, -, rfl⟩ := Option.map_eq_some_iff.1 h
  exact ⟨rfl, rfl⟩

theorem Statement.unbound_aborting {s : Statement} {name : String} {i : Identifier}
    (h : (s.aborting name).identifier? = some i) : i.bound = false := by
  rw [identifier?_aborting] at h
  obtain ⟨declared, -, rfl⟩ := Option.map_eq_some_iff.1 h
  rfl

namespace Run

variable {σ : Type}

theorem boundValue_of_error {o : Outcome} (h : o.error ≠ "") : boundValue o = .failed o.error := by
  simp [boundValue, Outcome.failed, h]

/-- The progress without its log. -/
def Progress.quiet (p : Progress σ) : Progress σ := { p with log := [] }

theorem Progress.quiet_eq_iff {p q : Progress σ} : p.quiet = q.quiet ↔
    p.state = q.state ∧ p.scope = q.scope ∧ p.done = q.done ∧ p.exchanges = q.exchanges := by
  simp [quiet]

/-- How a statement gets its outcome: the outcome, the requests made for it and the driver's
state after them. -/
inductive Handled (driver : Driver σ) (scope : Scope) (state : σ) (s : Statement) :
    Outcome → List Exchange → σ → Prop
  | blocked (obstacle : Obstacle) : s.expression.readiness scope = .blocked obstacle →
      Handled driver scope state s { error := obstacle.message } [] state
  | raised (params : Table Value) (response : Response) (f : Fault) (after : σ) :
      s.expression.readiness scope = .ready params →
      driver.perform state (s.request params) = (response, after) → response.reply = .fault f →
      Handled driver scope state s { error := f.summary } [⟨s.request params, response⟩] after
  | returned (params : Table Value) (response : Response) (v : Value) (after : σ) :
      s.expression.readiness scope = .ready params →
      driver.perform state (s.request params) = (response, after) → response.reply = .value v →
      Handled driver scope state s { result := v } [⟨s.request params, response⟩] after

/-- The step from `p` to `q` settles a statement with an outcome. -/
structure Settles (driver : Driver σ) (p : Progress σ) (s : Statement) (o : Outcome)
    (made : List Exchange) (q : Progress σ) : Prop where
  handled : Handled driver p.scope p.state s o made q.state
  done : q.done = p.done ++ [s.settled o]
  scope : q.scope = p.scope.after s (boundValue o)
  exchanges : q.exchanges = p.exchanges ++ made

/-- The step from `p` to `q` finds an undeclared name. -/
structure Aborted (p : Progress σ) (s : Statement) (name : String) (q : Progress σ) : Prop where
  undeclared : s.expression.undeclared? p.scope = some name
  done : q.done = p.done ++ [s.aborting name]
  scope : q.scope = p.scope
  exchanges : q.exchanges = p.exchanges
  state : q.state = p.state

/-- The step from `p` to `q` ends the program. -/
structure Exited (driver : Driver σ) (p : Progress σ) (message : String) (q : Progress σ) :
    Prop where
  exits : ∃ request, (driver.perform p.state request).1.reply = .exit message
  done : q.done = p.done
  scope : q.scope = p.scope

/-- **Settling a fresh statement** never finds its name bound. -/
theorem settle_fresh {p q : Progress σ} {s : Statement} {o : Outcome} {stop : Option Stop}
    (h : settle p s.fresh o = (q, stop)) :
    stop = none ∧ q.state = p.state ∧ q.exchanges = p.exchanges ∧
      q.done = p.done ++ [s.settled o] ∧ q.scope = p.scope.after s (boundValue o) := by
  obtain ⟨node, line, outcome⟩ := s
  cases node with
  | expression e =>
    cases h
    refine ⟨rfl, ?_, ?_, ?_, ?_⟩ <;> by_cases ho : o.failed = true <;> simp only [ho] <;> rfl
  | declaration left right =>
    cases h
    refine ⟨rfl, ?_, ?_, ?_, ?_⟩ <;> by_cases ho : o.failed = true <;> simp only [ho] <;> rfl

theorem readiness_undeclared {scope : Scope} {e : Expression} {name : String}
    (h : e.readiness scope = .undeclared name) : e.undeclared? scope = some name := by
  unfold Expression.readiness at h
  split at h
  · simp_all
  · split at h
    · cases h
    · split at h
      · cases h
      · split at h <;> cases h

/-- An expression that is ready has all its names declared, and nothing in its way. -/
theorem readiness_ready {scope : Scope} {e : Expression} {params : Table Value}
    (h : e.readiness scope = .ready params) :
    e.undeclared? scope = none ∧ e.failedReference? scope = none ∧ e.holes = [] ∧ e.aliases = [] ∧
      params = e.effectiveParams scope := by
  unfold Expression.readiness at h
  split at h
  · cases h
  · rename_i hu
    split at h
    · cases h
    · rename_i hf
      split at h
      · cases h
      · rename_i hh
        split at h
        · cases h
        · rename_i ha
          cases h
          exact ⟨hu, hf, by simpa using hh, by simpa using ha, rfl⟩

/-- A statement is handled only if all its references are declared. -/
theorem Handled.undeclared?_eq_none {driver : Driver σ} {scope : Scope} {state after : σ}
    {s : Statement} {o : Outcome} {made : List Exchange}
    (h : Handled driver scope state s o made after) : s.expression.undeclared? scope = none := by
  cases hu : s.expression.undeclared? scope with
  | none => rfl
  | some name =>
    have hr : s.expression.readiness scope = .undeclared name := by
      unfold Expression.readiness; rw [hu]
    cases h with
    | blocked obstacle hb => rw [hr] at hb; cases hb
    | raised params response f after hp => rw [hr] at hp; cases hp
    | returned params response v after hp => rw [hr] at hp; cases hp

/-- A statement for which a request was made was ready. -/
theorem Handled.ready {driver : Driver σ} {scope : Scope} {state after : σ} {s : Statement}
    {o : Outcome} {made : List Exchange} (h : Handled driver scope state s o made after)
    (hmade : made ≠ []) :
    ∃ params response, made = [⟨s.request params, response⟩] ∧
      driver.perform state (s.request params) = (response, after) ∧
      s.expression.readiness scope = .ready params := by
  cases h with
  | blocked obstacle hb => exact absurd rfl hmade
  | raised params response f after hr hp => exact ⟨params, response, rfl, hp, hr⟩
  | returned params response v after hr hp => exact ⟨params, response, rfl, hp, hr⟩

theorem exchange_eq {driver : Driver σ} {p : Progress σ} {request : Request} {response : Response}
    {after : σ} (h : driver.perform p.state request = (response, after)) :
    p.exchange driver request = (response, { p with
      state := after
      exchanges := p.exchanges ++ [⟨request, response⟩]
      log := p.log ++ response.notes }) := by
  unfold Progress.exchange
  rw [h]

/-- **All that a step can do.** -/
theorem step_cases {driver : Driver σ} {total : ℕ} {p q : Progress σ} {s : Statement}
    {stop : Option Stop} (h : step driver total p s = (q, stop)) :
    (∃ name, stop = some (.undeclared name) ∧ Aborted p s name q) ∨
    (∃ message, stop = some (.exit message) ∧ Exited driver p message q) ∨
    (stop = none ∧ ∃ o made, Settles driver p s o made q) := by
  unfold step at h
  simp only [Statement.expression_fresh] at h
  set p₁ := p.note .debug
    ("[" ++ toString (p.done.length + 1) ++ "/" ++ toString total ++ "] " ++ s.fresh.line)
  -- the note changes the log only, so `p₁` has the state, scope and record of `p`
  cases hr : s.expression.readiness p₁.scope with
  | undeclared name =>
    rw [hr] at h
    cases h
    exact Or.inl ⟨name, rfl, readiness_undeclared hr, rfl, rfl, rfl, rfl⟩
  | blocked obstacle =>
    rw [hr] at h
    obtain ⟨rfl, hstate, hmade, hdone, hscope⟩ := settle_fresh h
    refine Or.inr (Or.inr ⟨rfl, _, [], ?_, hdone, hscope, by rw [hmade]; simp [p₁, Progress.note]⟩)
    rw [hstate]
    exact .blocked obstacle hr
  | ready params =>
    rcases hperf : driver.perform p₁.state (s.request params) with ⟨response, after⟩
    have hx := exchange_eq hperf
    unfold Statement.request at hx
    rw [hr] at h
    simp only [hx] at h
    cases hrep : response.reply with
    | value v =>
      rw [hrep] at h
      obtain ⟨rfl, hstate, hmade, hdone, hscope⟩ := settle_fresh h
      have hh := Handled.returned params response v after hr hperf hrep
      exact Or.inr (Or.inr ⟨rfl, _, _, hstate ▸ hh, hdone, hscope, hmade⟩)
    | fault f =>
      rw [hrep] at h
      obtain ⟨rfl, hstate, hmade, hdone, hscope⟩ := settle_fresh h
      have hh := Handled.raised params response f after hr hperf hrep
      exact Or.inr (Or.inr ⟨rfl, _, _, hstate ▸ hh, hdone, hscope, hmade⟩)
    | exit message =>
      rw [hrep] at h
      cases h
      refine Or.inr (Or.inl ⟨message, rfl, ⟨s.request params, ?_⟩, rfl, rfl⟩)
      rw [show driver.perform p.state (s.request params) = (response, after) from hperf]
      exact hrep

/-- A statement that can be handled is settled: nothing else happens to it. -/
theorem settles_of_handled {driver : Driver σ} {p : Progress σ} {s : Statement} {o : Outcome}
    {made : List Exchange} {after : σ} (h : Handled driver p.scope p.state s o made after)
    (total : ℕ) :
    ∃ q, step driver total p s = (q, none) ∧ Settles driver p s o made q ∧ q.state = after := by
  unfold step
  simp only [Statement.expression_fresh]
  set p₁ := p.note .debug
    ("[" ++ toString (p.done.length + 1) ++ "/" ++ toString total ++ "] " ++ s.fresh.line)
  -- once the reply is known, all that is left is to settle the fresh copy
  have hsettle : ∀ p₂ : Progress σ, p₂.scope = p.scope → p₂.done = p.done → p₂.state = after →
      p₂.exchanges = p.exchanges ++ made →
      ∃ q, settle p₂ s.fresh o = (q, none) ∧ Settles driver p s o made q ∧ q.state = after := by
    intro p₂ hscope hdone hstate hmade
    rcases hr : settle p₂ s.fresh o with ⟨q, stop⟩
    obtain ⟨rfl, hstate', hmade', hdone', hscope'⟩ := settle_fresh hr
    have hq : q.state = after := hstate'.trans hstate
    exact ⟨q, rfl, ⟨hq ▸ h, hdone ▸ hdone', hscope ▸ hscope', hmade'.trans hmade⟩, hq⟩
  cases h with
  | blocked obstacle hb =>
    rw [show s.expression.readiness p₁.scope = .blocked obstacle from hb]
    exact hsettle p₁ rfl rfl rfl (List.append_nil _).symm
  | raised params response f after hr hperf hreply =>
    have hx : p₁.exchange driver ⟨s.expression.action, s.expression.entity, params⟩ = _ :=
      exchange_eq hperf
    rw [show s.expression.readiness p₁.scope = .ready params from hr]
    simp only [hx, hreply]
    exact hsettle _ rfl rfl rfl rfl
  | returned params response v after hr hperf hreply =>
    have hx : p₁.exchange driver ⟨s.expression.action, s.expression.entity, params⟩ = _ :=
      exchange_eq hperf
    rw [show s.expression.readiness p₁.scope = .ready params from hr]
    simp only [hx, hreply]
    exact hsettle _ rfl rfl rfl rfl

/-- A result of a step without its log. -/
def hush (r : Progress σ × Option Stop) : Progress σ × Option Stop := (r.1.quiet, r.2)

theorem settle_hush {p q : Progress σ} (h : p.quiet = q.quiet) (s : Statement) (o : Outcome) :
    hush (settle p s o) = hush (settle q s o) := by
  obtain ⟨state, scope, done, exchanges, log⟩ := p
  obtain ⟨state', scope', done', exchanges', log'⟩ := q
  cases h
  obtain ⟨node, line, outcome⟩ := s
  cases node with
  | expression e => by_cases ho : o.failed = true <;> simp only [settle, ho] <;> rfl
  | declaration left right =>
    by_cases ho : o.failed = true <;> cases hb : left.bind (boundValue o) <;>
      simp only [settle, ho, hb] <;> rfl

theorem exchange_quiet {p q : Progress σ} (h : p.quiet = q.quiet) (driver : Driver σ)
    (request : Request) :
    (p.exchange driver request).1 = (q.exchange driver request).1 ∧
      (p.exchange driver request).2.quiet = (q.exchange driver request).2.quiet := by
  obtain ⟨state, scope, done, exchanges, log⟩ := p
  obtain ⟨state', scope', done', exchanges', log'⟩ := q
  cases h
  exact ⟨rfl, rfl⟩

/-- **What a step does depends on neither its log nor the number of all statements.** -/
theorem step_hush {p q : Progress σ} (h : p.quiet = q.quiet) (driver : Driver σ)
    (total total' : ℕ) (s : Statement) :
    hush (step driver total p s) = hush (step driver total' q s) := by
  obtain ⟨-, hscope, -, -⟩ := Progress.quiet_eq_iff.1 h
  unfold step
  simp only
  set p₁ := p.note .debug
    ("[" ++ toString (p.done.length + 1) ++ "/" ++ toString total ++ "] " ++ s.fresh.line)
  set q₁ := q.note .debug
    ("[" ++ toString (q.done.length + 1) ++ "/" ++ toString total' ++ "] " ++ s.fresh.line)
  -- the two notes differ, and nothing else
  have h₁ : p₁.quiet = q₁.quiet := h
  rw [show p₁.scope = q₁.scope from hscope]
  cases s.fresh.expression.readiness q₁.scope with
  | undeclared name =>
    show (Progress.record p₁.quiet _, _) = (Progress.record q₁.quiet _, _)
    rw [h₁]
  | blocked obstacle => exact settle_hush h₁ _ _
  | ready params =>
    obtain ⟨hr, hx⟩ := exchange_quiet h₁ driver
      ⟨s.fresh.expression.action, s.fresh.expression.entity, params⟩
    simp only [hr]
    split
    · exact settle_hush hx _ _
    · exact settle_hush hx _ _
    · unfold hush; rw [hx]

end Run

end Provision
