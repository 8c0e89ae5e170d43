import Provision.Proofs.Run.Resolution
import Provision.Proofs.Template.Literals
import Provision.Proofs.Template.Passes

/-!
# References mean substitution

A reference stands for a value. Put that value in its place, as a literal parameter, and the
statement asks the driver for the same thing: the literal parameters come first and the references
follow in their order, which is where setting them puts them. So a whole template can have its
references replaced by what they stood for in a run, statements with a reference to a failed mark
aside, and runs as before.

* `Expression.readiness_substituted`: a statement stands as before with its references replaced.
* `Run.Settles.sameResults`: two runs that agree so far agree on the next statement.
* `references_mean_substitution`: **replacing references by their values** changes no request, no
  outcome and no bound value.
-/

namespace Provision

open Run

/-! ## Replacing references -/

/-- A name has a failed mark in a scope. -/
def Scope.isFailed (scope : Scope) (name : String) : Bool :=
  match scope.get? name with
  | some (.failed _) => true
  | _ => false

/-- The expression with the values of its references in their place, in their order; with a
reference to a failed mark it is kept as it is. -/
def Expression.substituted (scope : Scope) (e : Expression) : Expression :=
  if e.refs.values.any scope.isFailed then e
  else e.setAll (e.refs.mapValues fun name => (scope.get? name).getD .null)

/-- The template with the references of every statement replaced by the values that a report binds
them to before the statement. -/
def Template.substituted (r : Report) (t : Template) : Template :=
  ⟨t.statements.mapIdx fun i s => s.mapExpression (Expression.substituted (r.cut i).bindings)⟩

namespace Expression

variable {scope : Scope} {e : Expression}

theorem failedReference?_of_any (h : e.refs.values.any scope.isFailed = false) :
    e.failedReference? scope = none := by
  refine List.findSome?_eq_none_iff.2 fun name hname => ?_
  have hgood := List.any_eq_false.1 h name hname
  unfold Scope.isFailed at hgood
  split
  · rename_i error herror
    rw [herror] at hgood
    exact absurd rfl hgood
  · rfl

theorem readiness_of_refs_nil (h : e.refs = []) (scope : Scope) : e.readiness scope =
    if !e.holes.isEmpty then .blocked (.openHoles (Text.sorted e.holes.values))
    else if !e.aliases.isEmpty then .blocked (.openAliases (Text.sorted e.aliases.values))
    else .ready e.params := by
  have hundeclared : e.undeclared? scope = none := by
    unfold undeclared?
    rw [h]
    rfl
  have hfailed : e.failedReference? scope = none := by
    unfold failedReference?
    rw [h]
    rfl
  have hparams : e.effectiveParams scope = e.params := by
    unfold effectiveParams
    rw [h]
    rfl
  unfold readiness
  rw [hundeclared, hfailed, hparams]

theorem readiness_of_good (hdeclared : e.undeclared? scope = none)
    (hgood : e.refs.values.any scope.isFailed = false) : e.readiness scope =
    if !e.holes.isEmpty then .blocked (.openHoles (Text.sorted e.holes.values))
    else if !e.aliases.isEmpty then .blocked (.openAliases (Text.sorted e.aliases.values))
    else .ready (e.effectiveParams scope) := by
  unfold readiness
  rw [hdeclared, failedReference?_of_any hgood]

/-- **A statement stands as before** when its references are replaced by their values. -/
theorem readiness_substituted (hv : e.clash? = none) (hdeclared : e.undeclared? scope = none) :
    (e.substituted scope).readiness scope = e.readiness scope := by
  unfold substituted
  split
  · rfl
  · rename_i hany
    have hgood : e.refs.values.any scope.isFailed = false := by simpa using hany
    obtain ⟨-, -, hrefs, -⟩ := (names_nodup_iff e).1 ((clash?_eq_none_iff e).1 hv)
    set values := e.refs.mapValues fun name => (scope.get? name).getD .null
    have hnames : values.map Prod.fst = e.refs.keys := Table.keys_mapValues _ _
    -- no alias and no hole has the name of a reference, so these stay
    have haliases : (e.setAll values).aliases = e.aliases := by
      rw [setAll_aliases, hnames]
      exact Table.without_of_disjoint fun name hname => (hrefs name hname).1
    have hholes : (e.setAll values).holes = e.holes := by
      rw [setAll_holes, hnames]
      exact Table.without_of_disjoint fun name hname => (hrefs name hname).2
    have hnone : (e.setAll values).refs = [] := by
      rw [setAll_refs, hnames, Table.without_keys]
    rw [readiness_of_refs_nil hnone, readiness_of_good hdeclared hgood, haliases, hholes,
      setAll_params, effectiveParams_eq_update]

theorem substituted_action (scope : Scope) (e : Expression) :
    (e.substituted scope).action = e.action := by
  unfold substituted
  split
  · rfl
  · exact setAll_action _ _

theorem substituted_entity (scope : Scope) (e : Expression) :
    (e.substituted scope).entity = e.entity := by
  unfold substituted
  split
  · rfl
  · exact setAll_entity _ _

end Expression

/-! ## Two runs side by side -/

/-- A statement in place of another one, in a scope: it declares the same name, stands in the same
way, and asks for the same action. -/
structure Statement.StandsFor (scope : Scope) (s' s : Statement) : Prop where
  declaredName? : s'.declaredName? = s.declaredName?
  action : s'.expression.action = s.expression.action
  entity : s'.expression.entity = s.expression.entity
  readiness : s'.expression.readiness scope = s.expression.readiness scope

/-- Two recorded statements with the same outcome and the same bound name. -/
def Statement.SameResult (a a' : Statement) : Prop :=
  a'.outcome = a.outcome ∧ a'.identifier? = a.identifier?

variable {σ : Type} {driver : Driver σ}

theorem Statement.StandsFor.request {scope : Scope} {s s' : Statement} (h : s'.StandsFor scope s)
    (params : Table Value) : s'.request params = s.request params := by
  unfold Statement.request
  rw [h.action, h.entity]

/-- A statement is handled like the one it stands for. -/
theorem Statement.StandsFor.handled {scope : Scope} {state after : σ} {s s' : Statement}
    {o : Outcome} {made : List Exchange} (h : s'.StandsFor scope s)
    (hh : Handled driver scope state s o made after) :
    Handled driver scope state s' o made after := by
  cases hh with
  | blocked obstacle hb => exact .blocked obstacle (h.readiness.trans hb)
  | raised params response f after hr hp hreply =>
    rw [← h.request] at hp ⊢
    exact .raised params response f after (h.readiness.trans hr) hp hreply
  | returned params response v after hr hp hreply =>
    rw [← h.request] at hp ⊢
    exact .returned params response v after (h.readiness.trans hr) hp hreply

namespace Run

/-- Two runs have come equally far, with the same results. -/
structure Progress.SameResults (p q : Progress σ) : Prop where
  state : q.state = p.state
  scope : q.scope = p.scope
  exchanges : q.exchanges = p.exchanges
  done : List.Forall₂ Statement.SameResult p.done q.done

/-- **The next statement.** Two runs with the same results so far have them after a statement and
one that stands for it. -/
theorem Settles.sameResults {p p₁ q : Progress σ} {s s' : Statement} {o : Outcome}
    {made : List Exchange} (hs : Settles driver p s o made p₁) (h : p.SameResults q)
    (hstands : s'.StandsFor p.scope s) (total : ℕ) :
    ∃ q₁, step driver total q s' = (q₁, none) ∧ p₁.SameResults q₁ := by
  have hhandled := hstands.handled hs.handled
  rw [← h.scope, ← h.state] at hhandled
  obtain ⟨q₁, hstep, hs', hstate⟩ := settles_of_handled hhandled total
  refine ⟨q₁, hstep, hstate, ?_, ?_, ?_⟩
  · rw [hs'.scope, hs.scope, h.scope]
    unfold Scope.after
    rw [hstands.declaredName?]
  · rw [hs'.exchanges, hs.exchanges, h.exchanges]
  · have hlast : (s.settled o).SameResult (s'.settled o) := by
      refine ⟨rfl, ?_⟩
      rw [Statement.identifier?_settled, Statement.identifier?_settled, hstands.declaredName?]
    rw [hs'.done, hs.done]
    exact List.rel_append h.done (.cons hlast .nil)

end Run

variable {state : σ} {t : Template} {r : Report}

/-- A statement of the substituted template stands for that of the template. -/
theorem Completes.standsFor (h : Completes driver state t r) (hv : t.Valid) {n : ℕ}
    {s : Statement} (hs : t.statements[n]? = some s) :
    ∃ s', (t.substituted r).statements[n]? = some s' ∧
      s'.StandsFor (t.progressAt driver state n).scope s := by
  have hn := (List.getElem?_eq_some_iff.1 hs).1
  have hscope : (r.cut n).bindings = (t.progressAt driver state n).scope :=
    (h.reports.scope (Nat.le_of_lt hn)).symm
  obtain ⟨o, made, hsettles⟩ := trace_settles hs (trace_none_of_le hn h.trace)
  have hclash : s.expression.clash? = none :=
    hv _ (List.mem_map.2 ⟨s, List.mem_of_getElem? hs, rfl⟩)
  refine ⟨s.mapExpression (Expression.substituted (r.cut n).bindings), ?_, ?_⟩
  · unfold Template.substituted
    rw [List.getElem?_mapIdx, hs, Option.map_some]
  · rw [hscope]
    refine ⟨?_, ?_, ?_, ?_⟩
    · unfold Statement.declaredName?
      rw [Statement.identifier?_mapExpression]
    · rw [Statement.expression_mapExpression, Expression.substituted_action]
    · rw [Statement.expression_mapExpression, Expression.substituted_entity]
    · rw [Statement.expression_mapExpression]
      exact Expression.readiness_substituted hclash hsettles.handled.undeclared?_eq_none

/-- **The two runs agree after every statement.** -/
theorem Completes.sameResults (h : Completes driver state t r) (hv : t.Valid) {n : ℕ}
    (hn : n ≤ t.statements.length) :
    ((t.substituted r).trace driver state n).2 = none ∧
      (t.progressAt driver state n).SameResults ((t.substituted r).progressAt driver state n) := by
  induction n with
  | zero =>
    unfold Template.progressAt
    rw [trace_zero, trace_zero]
    exact ⟨rfl, rfl, rfl, rfl, .nil⟩
  | succ n ih =>
    obtain ⟨htrace, hsame⟩ := ih (by omega)
    have hs := List.getElem?_eq_getElem (show n < t.statements.length by omega)
    obtain ⟨o, made, hsettles⟩ := trace_settles hs (trace_none_of_le hn h.trace)
    obtain ⟨s', hs', hstands⟩ := h.standsFor hv hs
    obtain ⟨q, hstep, hsame'⟩ :=
      hsettles.sameResults hsame hstands (t.substituted r).statements.length
    have hnext : (t.substituted r).trace driver state (n + 1) = (q, none) :=
      (trace_succ hs' htrace).trans hstep
    refine ⟨by rw [hnext], ?_⟩
    rw [show (t.substituted r).progressAt driver state (n + 1) = q from congrArg Prod.fst hnext]
    exact hsame'

variable {id : String} {started finished : Time.Moment}

/-- **References mean substitution.** -/
theorem references_mean_substitution (hv : t.Valid)
    (hr : (t.run driver state id started finished).ending = .complete r)
    (id' : String) (started' finished' : Time.Moment) :
    ∃ r', ((t.substituted r).run driver state id' started' finished').ending = .complete r' ∧
      ((t.substituted r).run driver state id' started' finished').progress.exchanges =
        (t.run driver state id started finished).progress.exchanges ∧
      List.Forall₂ (fun a a' => a'.outcome = a.outcome ∧ a'.identifier? = a.identifier?)
        r.statements r'.statements := by
  have h := completes_of_ending hr
  have hlen : (t.substituted r).statements.length = t.statements.length := List.length_mapIdx
  obtain ⟨htrace, hsame⟩ := h.sameResults hv (Nat.le_refl _)
  rw [← hlen] at htrace
  obtain ⟨r', hr', h'⟩ := complete_of_trace id' started' finished' htrace
  refine ⟨r', hr', ?_, ?_⟩
  · rw [run_exchanges, run_exchanges, hlen, hsame.exchanges]
  · rw [h.statements, h'.statements, hlen]
    exact hsame.done

/-- Creating a network fails; any other request is answered with the number of requests before. -/
def flaky : Driver ℕ where
  perform count request :=
    ({ reply := if request.entity = "network" then .fault (.backend "Quota" "no network left")
        else .value (.int count) }, count + 1)

/-- References to a name that is declared twice, beside a hole, and to a failed declaration. -/
def layered : Template where
  statements :=
    [{ node := .declaration { name := "disk" } { action := "create", entity := "disk" } },
     { node := .declaration { name := "disk" }
        { action := "copy", entity := "disk", refs := [("source", "disk")] } },
     { node := .declaration { name := "net" } { action := "create", entity := "network" } },
     { node := .expression
        { action := "attach", entity := "disk", params := [("port", .int 5)],
          refs := [("disk", "disk"), ("backup", "disk")] } },
     { node := .expression
        { action := "create", entity := "server", refs := [("disk", "disk"), ("net", "net")] } },
     { node := .expression
        { action := "resize", entity := "disk", refs := [("disk", "disk")],
          holes := [("size", "size")] } }]

theorem references_mean_substitution_layered : layered.Valid ∧ ∃ r r',
    (layered.run flaky 0 "run" default default).ending = .complete r ∧
      (layered.substituted r).expressions.map Expression.refs =
        [[], [], [], [], [("disk", "disk"), ("net", "net")], []] ∧
      ((layered.substituted r).run flaky 0 "again" default default).ending = .complete r' ∧
      r'.statements.map Statement.outcome = r.statements.map Statement.outcome := by
  have hv : layered.Valid := by
    intro e he
    simp only [Template.expressions, layered, List.map_cons, List.map_nil, List.mem_cons,
      List.not_mem_nil, or_false] at he
    rcases he with rfl | rfl | rfl | rfl | rfl | rfl <;> decide
  obtain ⟨r, hr⟩ : ∃ r, (layered.run flaky 0 "run" default default).ending = .complete r := ⟨_, rfl⟩
  obtain ⟨r', hr', -, hsame⟩ := references_mean_substitution hv hr "again" default default
  obtain rfl : ((layered.run flaky 0 "run" default default).ending.report?).getD default = r := by
    rw [hr]; rfl
  refine ⟨hv, _, r', hr, by decide +kernel, hr', ?_⟩
  rw [← List.forall₂_eq_eq_eq, List.forall₂_map_left_iff, List.forall₂_map_right_iff]
  exact List.Forall₂.flip (hsame.imp fun _ _ h => h.1)

end Provision
