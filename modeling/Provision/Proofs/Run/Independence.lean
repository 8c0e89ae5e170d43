import Provision.Proofs.Run.Trace
import Provision.Proofs.Template.Agreement

/-!
# Statements that do not depend on each other

Against a driver whose replies depend on the request alone, what a statement gets depends on the
values of the names it refers to, and nothing else. So such a run can be told without the driver's
state, as an evaluation in a scope (`Run.evaluate`), and a scope counts as the mapping it is: two
neighbours of which neither declares a name of the other leave scopes that agree, whichever comes
first.

* `Expression.readiness_congr`: how a statement stands depends on the names it refers to.
* `complete_iff_evaluate`: **a run is an evaluation**, for such a driver.
* `Run.evaluate_swap`: independent neighbours may be swapped in an evaluation.
* `independent_neighbours_swap`: and so they may in a run.
-/

namespace Provision

open Run

/-! ## What a statement depends on -/

namespace Expression

variable {scope scope' : Scope} {e : Expression}

/-- **How a statement stands** depends on the names it refers to. -/
theorem readiness_congr (h : ∀ name ∈ e.refs.values, scope.get? name = scope'.get? name) :
    e.readiness scope = e.readiness scope' := by
  have hundeclared : e.undeclared? scope = e.undeclared? scope' := by
    unfold undeclared?
    rw [← List.head?_filter, ← List.head?_filter]
    refine congrArg List.head? (List.filter_congr fun name hname => ?_)
    unfold Table.has
    rw [h name hname]
  have hfailed : e.failedReference? scope = e.failedReference? scope' := by
    unfold failedReference?
    rw [← List.head?_filterMap, ← List.head?_filterMap]
    refine congrArg List.head? (List.filterMap_congr fun name hname => ?_)
    rw [h name hname]
  have hparams : e.effectiveParams scope = e.effectiveParams scope' := by
    unfold effectiveParams
    refine List.foldl_ext _ _ _ fun params ref href => ?_
    rw [h ref.2 (List.mem_map_of_mem href)]
  unfold readiness
  rw [hundeclared, hfailed, hparams]

end Expression

namespace Scope

variable {scope scope' : Scope}

theorem get?_after (scope : Scope) (s : Statement) (v : Value) (name : String) :
    (scope.after s v).get? name =
      if s.declaredName? = some name then some v else scope.get? name := by
  unfold after
  cases s.declaredName? with
  | none => rfl
  | some declared =>
    have hname : some declared = some name ↔ name = declared := by
      rw [Option.some_inj, eq_comm]
    simp only [bind, Table.get?_set, hname]

theorem agrees_after (h : Table.Agrees scope scope') (s : Statement) (v : Value) :
    Table.Agrees (scope.after s v) (scope'.after s v) := by
  intro name
  rw [get?_after, get?_after, h name]

end Scope

/-- Neither statement refers to a name that the other declares, and they do not declare the same
name. -/
structure Statement.Independent (a b : Statement) : Prop where
  declared : ∀ name, a.declaredName? = some name → b.declaredName? ≠ some name
  before : ∀ name, a.declaredName? = some name → name ∉ b.expression.refs.values
  after : ∀ name, b.declaredName? = some name → name ∉ a.expression.refs.values

/-- Independent statements leave scopes that agree, whichever comes first. -/
theorem Scope.agrees_after_after {a b : Statement} (h : a.Independent b) (scope : Scope)
    (v w : Value) : Table.Agrees ((scope.after a v).after b w) ((scope.after b w).after a v) := by
  intro name
  rw [get?_after, get?_after, get?_after, get?_after]
  by_cases ha : a.declaredName? = some name
  · rw [if_pos ha, if_pos ha, if_neg (h.declared name ha)]
  · rw [if_neg ha, if_neg ha]

/-! ## Runs as evaluations -/

variable {σ : Type}

/-- What a driver replies depends on the request alone. -/
def Driver.Answers (driver : Driver σ) (answer : Request → Reply) : Prop :=
  ∀ state request, (driver.perform state request).1.reply = answer request

/-- What a statement gets in a scope, if that is not the end of the run. -/
def Statement.evaluate (answer : Request → Reply) (scope : Scope) (s : Statement) :
    Option Outcome :=
  match s.expression.readiness scope with
  | .undeclared _ => none
  | .blocked obstacle => some { error := obstacle.message }
  | .ready params =>
    match answer (s.request params) with
    | .value v => some { result := v }
    | .fault f => some { error := f.summary }
    | .exit _ => none

/-- What is recorded of statements that are executed in a scope one after the other, if none of
them ends the run. -/
def Run.evaluate (answer : Request → Reply) : Scope → List Statement → Option (List Statement)
  | _, [] => some []
  | scope, s :: ss =>
    (s.evaluate answer scope).bind fun o =>
      (Run.evaluate answer (scope.after s (boundValue o)) ss).map (s.settled o :: ·)

variable {driver : Driver σ} {answer : Request → Reply}

/-- Statements get what they are handled with. -/
theorem Statement.evaluate_eq_some_iff (h : driver.Answers answer) {scope : Scope} {s : Statement}
    {o : Outcome} (state : σ) : s.evaluate answer scope = some o ↔
      ∃ made after, Handled driver scope state s o made after := by
  unfold Statement.evaluate
  constructor
  · intro heval
    split at heval
    · cases heval
    · rename_i obstacle hready
      cases heval
      exact ⟨_, _, .blocked obstacle hready⟩
    · rename_i params hready
      rw [← h state] at heval
      split at heval
      · rename_i v hreply
        cases heval
        exact ⟨_, _, .returned params _ v _ hready rfl hreply⟩
      · rename_i f hreply
        cases heval
        exact ⟨_, _, .raised params _ f _ hready rfl hreply⟩
      · cases heval
  · rintro ⟨made, after, hhandled⟩
    cases hhandled with
    | blocked obstacle hready => rw [hready]
    | raised params response f after hready hperform hreply =>
      rw [hready]
      simp only [← h state, hperform, hreply]
    | returned params response v after hready hperform hreply =>
      rw [hready]
      simp only [← h state, hperform, hreply]

/-- **What a statement gets** depends on the names it refers to. -/
theorem Statement.evaluate_congr {scope scope' : Scope} {s : Statement}
    (h : ∀ name ∈ s.expression.refs.values, scope.get? name = scope'.get? name) :
    s.evaluate answer scope = s.evaluate answer scope' := by
  unfold Statement.evaluate
  rw [Expression.readiness_congr h]

/-- A statement that declares no name of another one leaves it what it gets. -/
theorem Statement.evaluate_after {s s' : Statement}
    (h : ∀ name, s.declaredName? = some name → name ∉ s'.expression.refs.values) (scope : Scope)
    (v : Value) : s'.evaluate answer (scope.after s v) = s'.evaluate answer scope := by
  refine evaluate_congr fun name hname => ?_
  rw [Scope.get?_after, if_neg fun hdeclared => h name hdeclared hname]

namespace Run

theorem evaluate_cons_eq_some_iff {scope : Scope} {s : Statement} {ss recorded : List Statement} :
    evaluate answer scope (s :: ss) = some recorded ↔
      ∃ o rest, s.evaluate answer scope = some o ∧
        evaluate answer (scope.after s (boundValue o)) ss = some rest ∧
        recorded = s.settled o :: rest := by
  rw [evaluate, Option.bind_eq_some_iff]
  constructor
  · rintro ⟨o, ho, hmap⟩
    obtain ⟨rest, hrest, rfl⟩ := Option.map_eq_some_iff.1 hmap
    exact ⟨o, rest, ho, hrest, rfl⟩
  · rintro ⟨o, rest, ho, hrest, rfl⟩
    exact ⟨o, ho, by rw [hrest, Option.map_some]⟩

theorem evaluate_of_steps (h : driver.Answers answer) {total : ℕ} {ss : List Statement}
    {p q : Progress σ} (hsteps : steps driver total ss p = (q, none)) :
    ∃ recorded, evaluate answer p.scope ss = some recorded ∧ q.done = p.done ++ recorded := by
  induction ss generalizing p with
  | nil =>
    cases hsteps
    exact ⟨[], rfl, (List.append_nil _).symm⟩
  | cons s ss ih =>
    rw [steps] at hsteps
    rcases hstep : step driver total p s with ⟨p₁, stop⟩
    rw [hstep] at hsteps
    rcases step_cases hstep with ⟨name, rfl, -⟩ | ⟨message, rfl, -⟩ | ⟨rfl, o, made, hs⟩
    · cases hsteps
    · cases hsteps
    · obtain ⟨recorded, heval, hdone⟩ := ih hsteps
      have ho := (Statement.evaluate_eq_some_iff h p.state).2 ⟨_, _, hs.handled⟩
      rw [hs.scope] at heval
      refine ⟨s.settled o :: recorded, evaluate_cons_eq_some_iff.2 ⟨o, _, ho, heval, rfl⟩, ?_⟩
      rw [hdone, hs.done, List.append_assoc, List.singleton_append]

theorem steps_of_evaluate (h : driver.Answers answer) (total : ℕ) {ss recorded : List Statement}
    {p : Progress σ} (heval : evaluate answer p.scope ss = some recorded) :
    ∃ q, steps driver total ss p = (q, none) ∧ q.done = p.done ++ recorded := by
  induction ss generalizing p recorded with
  | nil =>
    cases heval
    exact ⟨p, rfl, (List.append_nil _).symm⟩
  | cons s ss ih =>
    obtain ⟨o, rest, ho, hrest, rfl⟩ := evaluate_cons_eq_some_iff.1 heval
    obtain ⟨made, after, hhandled⟩ := (Statement.evaluate_eq_some_iff h p.state).1 ho
    obtain ⟨p₁, hstep, hs, -⟩ := settles_of_handled hhandled total
    rw [← hs.scope] at hrest
    obtain ⟨q, hsteps, hdone⟩ := ih hrest
    refine ⟨q, ?_, ?_⟩
    · rw [steps, hstep]
      exact hsteps
    · rw [hdone, hs.done, List.append_assoc, List.singleton_append]

/-! ## Swapping -/

/-- Scopes that agree cannot be told apart. -/
theorem evaluate_agrees {scope scope' : Scope} (h : Table.Agrees scope scope')
    (ss : List Statement) : evaluate answer scope ss = evaluate answer scope' ss := by
  induction ss generalizing scope scope' with
  | nil => rfl
  | cons s ss ih =>
    have hs : s.evaluate answer scope = s.evaluate answer scope' :=
      Statement.evaluate_congr fun name _ => h name
    rw [evaluate, evaluate, hs]
    cases s.evaluate answer scope' with
    | none => rfl
    | some o =>
      rw [Option.bind_some, Option.bind_some, ih (Scope.agrees_after h s (boundValue o))]

/-- **Independent neighbours may be swapped**, after any statements and before any. -/
theorem evaluate_swap {a b : Statement} (h : a.Independent b) {scope : Scope}
    {pre post recorded : List Statement}
    (heval : evaluate answer scope (pre ++ a :: b :: post) = some recorded) :
    ∃ earlier oa ob later, recorded = earlier ++ a.settled oa :: b.settled ob :: later ∧
      earlier.length = pre.length ∧
      evaluate answer scope (pre ++ b :: a :: post) =
        some (earlier ++ b.settled ob :: a.settled oa :: later) := by
  induction pre generalizing scope recorded with
  | nil =>
    obtain ⟨oa, rest, ha, hrest, rfl⟩ := evaluate_cons_eq_some_iff.1 heval
    obtain ⟨ob, later, hb, hlater, rfl⟩ := evaluate_cons_eq_some_iff.1 hrest
    refine ⟨[], oa, ob, later, rfl, rfl, ?_⟩
    -- each of the two gets the same without the other before it
    rw [Statement.evaluate_after h.before] at hb
    rw [← Statement.evaluate_after h.after scope (boundValue ob)] at ha
    rw [evaluate_agrees (Scope.agrees_after_after h scope (boundValue oa) (boundValue ob))]
      at hlater
    exact evaluate_cons_eq_some_iff.2
      ⟨ob, _, hb, evaluate_cons_eq_some_iff.2 ⟨oa, later, ha, hlater, rfl⟩, rfl⟩
  | cons s pre ih =>
    obtain ⟨o, rest, ho, hrest, rfl⟩ := evaluate_cons_eq_some_iff.1 heval
    obtain ⟨earlier, oa, ob, later, rfl, hlength, hswapped⟩ := ih hrest
    refine ⟨s.settled o :: earlier, oa, ob, later, rfl, ?_, ?_⟩
    · rw [List.length_cons, List.length_cons, hlength]
    · exact evaluate_cons_eq_some_iff.2 ⟨o, _, ho, hswapped, rfl⟩

end Run

variable {id : String} {started finished : Time.Moment}

/-- **A run is an evaluation**, for a driver whose replies depend on the request alone. -/
theorem complete_iff_evaluate (h : driver.Answers answer) {state : σ} {t : Template}
    {recorded : List Statement} :
    (∃ r, (t.run driver state id started finished).ending = .complete r ∧
      r.statements = recorded) ↔ evaluate answer [] t.statements = some recorded := by
  constructor
  · rintro ⟨r, hr, rfl⟩
    have hcompletes := completes_of_ending hr
    have hsteps : steps driver t.statements.length t.statements { state } =
        (t.progressAt driver state t.statements.length, none) := by
      have htrace := hcompletes.trace
      unfold Template.progressAt
      rw [← htrace]
      unfold Template.trace
      rw [List.take_length]
    obtain ⟨recorded, heval, hdone⟩ := evaluate_of_steps h hsteps
    rw [hcompletes.statements, hdone]
    exact heval
  · intro heval
    obtain ⟨q, hsteps, hdone⟩ :=
      steps_of_evaluate h t.statements.length (p := ({ state } : Progress σ)) heval
    have htrace : t.trace driver state t.statements.length = (q, none) := by
      unfold Template.trace
      rw [List.take_length]
      exact hsteps
    obtain ⟨r, hr, hcompletes⟩ :=
      complete_of_trace id started finished (congrArg Prod.snd htrace)
    refine ⟨r, hr, ?_⟩
    rw [hcompletes.statements, Template.progressAt, htrace]
    exact hdone

theorem Scope.get?_ofStatements_append (xs ys : List Statement) (name : String) :
    (Scope.ofStatements (xs ++ ys)).get? name =
      ((Scope.ofStatements ys).get? name).or ((Scope.ofStatements xs).get? name) := by
  unfold Scope.ofStatements
  rw [List.filterMap_append, Table.get?_ofEntries_append]

/-- Independent statements bind the same, whichever was recorded first. -/
theorem Scope.agrees_ofStatements_swap {a b : Statement} (h : a.Independent b)
    (earlier later : List Statement) (oa ob : Outcome) :
    Table.Agrees (Scope.ofStatements (earlier ++ b.settled ob :: a.settled oa :: later))
      (Scope.ofStatements (earlier ++ a.settled oa :: b.settled ob :: later)) := by
  have hpair := (agrees_after_after h (ofStatements earlier) (boundValue oa) (boundValue ob)).symm
  simp only [← ofStatements_settled] at hpair
  have hcut : ∀ x y : Statement,
      earlier ++ x :: y :: later = ((earlier ++ [x]) ++ [y]) ++ later := by
    intro x y
    simp
  intro name
  rw [hcut, hcut, get?_ofStatements_append, get?_ofStatements_append _ later, hpair name]

/-- **Independent neighbours may be swapped**: the run completes all the same, against the driver in
whatever state, and records for every statement the same outcome and bound value, in the new order.
The names are bound to the same values at the end. -/
theorem independent_neighbours_swap (h : driver.Answers answer) {pre post : List Statement}
    {a b : Statement} (hindependent : a.Independent b) {state : σ} {r : Report}
    (hr : (Template.run driver state id started finished ⟨pre ++ a :: b :: post⟩).ending =
      .complete r)
    (state' : σ) (id' : String) (started' finished' : Time.Moment) :
    ∃ earlier a' b' later r', r.statements = earlier ++ a' :: b' :: later ∧
      earlier.length = pre.length ∧
      (Template.run driver state' id' started' finished' ⟨pre ++ b :: a :: post⟩).ending =
        .complete r' ∧
      r'.statements = earlier ++ b' :: a' :: later ∧ r'.bindings.Agrees r.bindings := by
  have heval := (complete_iff_evaluate h).1 ⟨r, hr, rfl⟩
  obtain ⟨earlier, oa, ob, later, hrecorded, hlength, hswapped⟩ := evaluate_swap hindependent heval
  obtain ⟨r', hr', hrecorded'⟩ := (complete_iff_evaluate h).2 hswapped
  refine ⟨earlier, _, _, later, r', hrecorded, hlength, hr', hrecorded', ?_⟩
  rw [bindings_eq, bindings_eq, hrecorded, hrecorded']
  exact Scope.agrees_ofStatements_swap hindependent earlier later oa ob

/-- No network can be created; anything else is done. -/
def quotaReply (request : Request) : Reply :=
  if request.entity = "network" then .fault (.backend "Quota" "no network left")
  else .value (.text (request.action ++ " " ++ request.entity))

/-- A driver that counts its requests, to no effect. -/
def quota : Driver ℕ where
  perform count request := ({ reply := quotaReply request }, count + 1)

/-- A declaration that fails. -/
def lostNetwork : Statement :=
  { node := .declaration { name := "net" } { action := "create", entity := "network" } }

/-- A declaration of a name that it refers to. -/
def diskCopy : Statement :=
  { node := .declaration { name := "disk" }
      { action := "copy", entity := "disk", refs := [("source", "disk")] } }

/-- The declaration of the name that is copied. -/
def newDisk : Statement :=
  { node := .declaration { name := "disk" } { action := "create", entity := "disk" } }

/-- References to both names. -/
def dependants : List Statement :=
  [{ node := .expression
      { action := "create", entity := "server", refs := [("disk", "disk"), ("net", "net")] } },
   { node := .expression { action := "attach", entity := "disk", refs := [("disk", "disk")] } }]

theorem independent_neighbours_swap_diskCopy : quota.Answers quotaReply ∧
    lostNetwork.Independent diskCopy ∧ ∃ earlier a' b' later r r',
      (Template.run quota 0 "run" default default
        ⟨[newDisk] ++ lostNetwork :: diskCopy :: dependants⟩).ending = .complete r ∧
      (Template.run quota 7 "swapped" default default
        ⟨[newDisk] ++ diskCopy :: lostNetwork :: dependants⟩).ending = .complete r' ∧
      r.statements = earlier ++ a' :: b' :: later ∧
      r'.statements = earlier ++ b' :: a' :: later ∧
      r.statements.map (fun s => s.outcome.failed) = [false, true, false, true, false] := by
  have hanswers : quota.Answers quotaReply := fun _ _ => rfl
  have hindependent : lostNetwork.Independent diskCopy := by
    refine ⟨?_, ?_, ?_⟩
    · rintro _ ⟨⟩
      decide
    · rintro _ ⟨⟩
      decide
    · rintro _ ⟨⟩
      decide
  obtain ⟨r, hr⟩ : ∃ r, (Template.run quota 0 "run" default default
      ⟨[newDisk] ++ lostNetwork :: diskCopy :: dependants⟩).ending = .complete r := ⟨_, rfl⟩
  obtain ⟨earlier, a', b', later, r', hrecorded, -, hr', hrecorded', -⟩ :=
    independent_neighbours_swap hanswers hindependent hr 7 "swapped" default default
  refine ⟨hanswers, hindependent, earlier, a', b', later, r, r', hr, hr', hrecorded, hrecorded', ?_⟩
  obtain rfl : ((Template.run quota 0 "run" default default
      ⟨[newDisk] ++ lostNetwork :: diskCopy :: dependants⟩).ending.report?).getD default = r := by
    rw [hr]
    rfl
  decide +kernel

end Provision
