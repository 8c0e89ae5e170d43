import Provision.Proofs.Run.Trace
import Provision.Proofs.Template.Names

/-!
# What references stand for

The scope is kept while a run goes on, and the bindings of a report are read off its statements
afterwards. Both give a name the value of its **latest** declaration (`get?_ofStatements_iff`), so
the parameters a driver is given can be told from the report alone.

* `effectiveParams_eq`: the literal parameters in their order, then the references in theirs.
* `request_uses_latest_declarations`: **what the driver is asked** for a statement.
-/

namespace Provision

open Run

/-- Position `j` has the latest declaration of a name before position `i`. -/
structure Latest (ss : List Statement) (i : ℕ) (name : String) (j : ℕ) : Prop where
  before : j < i
  declares : ss[j]?.bind Statement.declaredName? = some name
  last : ∀ k, j < k → k < i → ss[k]?.bind Statement.declaredName? ≠ some name

/-- The value that the declaration at a position holds. -/
def valueAt (ss : List Statement) (j : ℕ) : Option Value :=
  ss[j]?.bind fun s => s.identifier?.map (·.value)

/-- The report cut to its first `n` statements. -/
def Report.cut (r : Report) (n : ℕ) : Report := { r with statements := r.statements.take n }

/-- Every declaration among the first `n` statements is bound. -/
def BoundBefore (ss : List Statement) (n : ℕ) : Prop :=
  ∀ k < n, ∀ s, ss[k]? = some s → ∀ i, s.identifier? = some i → i.bound = true

variable {ss : List Statement} {i j : ℕ} {name : String}

theorem Latest.unique {k : ℕ} (hj : Latest ss i name j) (hk : Latest ss i name k) : j = k := by
  rcases Nat.lt_trichotomy j k with h | h | h
  · exact absurd hk.declares (hj.last k h hk.before)
  · exact h
  · exact absurd hj.declares (hk.last j h hj.before)

/-- A declaration is the latest one right after it. -/
theorem latest_succ_self (h : ss[i]?.bind Statement.declaredName? = some name) :
    Latest ss (i + 1) name j ↔ j = i := by
  have hi : Latest ss (i + 1) name i := ⟨Nat.lt_succ_self i, h, fun k h1 h2 => by omega⟩
  exact ⟨fun hj => hj.unique hi, fun hj => hj ▸ hi⟩

/-- A statement that does not declare the name leaves the latest declaration as it was. -/
theorem latest_succ_other (h : ss[i]?.bind Statement.declaredName? ≠ some name) :
    Latest ss (i + 1) name j ↔ Latest ss i name j := by
  constructor
  · intro hj
    have hne : j ≠ i := fun he => h (he ▸ hj.declares)
    have := hj.before
    exact ⟨by omega, hj.declares, fun k h1 h2 => hj.last k h1 (by omega)⟩
  · intro hj
    refine ⟨Nat.lt_succ_of_lt hj.before, hj.declares, fun k h1 h2 => ?_⟩
    rcases Nat.eq_or_lt_of_le (Nat.le_of_lt_succ h2) with rfl | hlt
    · exact h
    · exact hj.last k h1 hlt

/-- **The bindings of the first `i` statements** are the values of the latest declarations. -/
theorem get?_ofStatements_iff (hb : BoundBefore ss i) (hi : i ≤ ss.length) (v : Value) :
    (Scope.ofStatements (ss.take i)).get? name = some v ↔
      ∃ j, Latest ss i name j ∧ valueAt ss j = some v := by
  induction i with
  | zero =>
    refine iff_of_false (by simp [Scope.ofStatements, Table.ofEntries, Table.update, Table.get?]) ?_
    rintro ⟨j, hj, -⟩
    exact absurd hj.before (Nat.not_lt_zero j)
  | succ i ih =>
    have hs := List.getElem?_eq_getElem (show i < ss.length by omega)
    have hprev := ih (fun k hk => hb k (by omega)) (by omega)
    obtain ⟨s, hs⟩ : ∃ s, ss[i]? = some s := ⟨_, hs⟩
    rw [List.take_add_one, hs, Option.toList_some, Scope.ofStatements_append]
    cases hid : s.identifier? with
    | none =>
      have hother : ss[i]?.bind Statement.declaredName? ≠ some name := by
        rw [hs]; simp [Statement.declaredName?, hid]
      have hbind : Report.binding? s = none := by simp [Report.binding?, hid]
      simp only [hbind, latest_succ_other hother]
      exact hprev
    | some ident =>
      have hdecl : ss[i]?.bind Statement.declaredName? = some ident.name := by
        rw [hs]; simp [Statement.declaredName?, hid]
      have hval : valueAt ss i = some ident.value := by
        unfold valueAt; rw [hs]; simp [hid]
      have hbind : Report.binding? s = some (ident.name, ident.value) := by
        simp [Report.binding?, hid, hb i (Nat.lt_succ_self i) s hs ident hid]
      simp only [hbind, Table.get?_set]
      -- a declaration of the name becomes the latest one; any other changes nothing
      by_cases hn : name = ident.name
      · subst hn
        simp only [if_pos, latest_succ_self hdecl, exists_eq_left, hval]
      · have hother : ss[i]?.bind Statement.declaredName? ≠ some name := by
          rw [hdecl]; exact fun h => hn (Option.some.inj h).symm
        simp only [if_neg hn, latest_succ_other hother]
        exact hprev

/-- The first statements of a report, up to the one that aborted the run, are bound. -/
theorem Reports.boundBefore {σ : Type} {driver : Driver σ} {state : σ} {t : Template} {r : Report}
    {n : ℕ} (h : Reports driver state t r n) : BoundBefore r.statements n := by
  intro k hk s hs ident hident
  obtain ⟨_, hs'⟩ := h.exists_statement hk
  obtain ⟨o, made, hset, -⟩ := h.settles hk hs'
  rw [hset] at hs
  cases hs
  exact (Statement.bound_settled hident).1

theorem effectiveParams_eq_update (e : Expression) (scope : Scope) :
    e.effectiveParams scope =
      e.params.update (e.refs.mapValues fun name => (scope.get? name).getD .null) := by
  unfold Expression.effectiveParams Table.update Table.mapValues
  rw [List.foldl_map]

/-- **The parameters given to a driver**: the literal ones in their order, then the references in
theirs, each with the value of its name. -/
theorem effectiveParams_eq {e : Expression} (he : e.clash? = none) (scope : Scope) :
    e.effectiveParams scope =
      e.params ++ e.refs.mapValues fun name => (scope.get? name).getD .null := by
  have hnodup := (Expression.clash?_eq_none_iff e).1 he
  rw [effectiveParams_eq_update]
  -- no reference has the name of a literal parameter, so none takes its place
  apply Table.update_of_nodup
  unfold Expression.names at hnodup
  have hkeys : (e.refs.mapValues fun name => (scope.get? name).getD .null).keys = e.refs.keys := by
    simp [Table.keys, Table.mapValues, Function.comp_def]
  rw [hkeys]
  exact (List.nodup_append.1 (List.nodup_append.1 hnodup).1).1

variable {σ : Type} {driver : Driver σ} {state : σ} {t : Template} {r : Report} {n : ℕ}

/-- Statement `i` is handed to the driver: the run makes a request for it. -/
def Template.Asks (driver : Driver σ) (state : σ) (t : Template) (i : ℕ) : Prop :=
  (t.progressAt driver state (i + 1)).exchanges ≠ (t.progressAt driver state i).exchanges

/-- The bindings of a report cut before a statement are the values of the latest declarations. -/
theorem Reports.cut_bindings_iff (h : Reports driver state t r n) (hi : i < r.statements.length)
    (name : String) (v : Value) :
    (r.cut i).bindings.get? name = some v ↔
      ∃ j, Latest r.statements i name j ∧ valueAt r.statements j = some v := by
  have hin := h.le_of_lt_length hi
  exact get?_ofStatements_iff (fun k hk => h.boundBefore k (by omega)) (Nat.le_of_lt hi) v

/-- A statement that is handed to the driver makes one request, with its literal parameters and
the values that the report binds its references to. -/
theorem Reports.asked (h : Reports driver state t r n) {s : Statement}
    (hs : t.statements[i]? = some s) (hv : s.expression.clash? = none)
    (hask : t.Asks driver state i) :
    i < n ∧ ∃ (value : String → Value) (request : Request) (response : Response),
      request = s.request (s.expression.params ++ s.expression.refs.mapValues value) ∧
      driver.perform (t.progressAt driver state i).state request =
        (response, (t.progressAt driver state (i + 1)).state) ∧
      (t.progressAt driver state (i + 1)).exchanges =
        (t.progressAt driver state i).exchanges ++ [⟨request, response⟩] ∧
      ∀ name ∈ s.expression.refs.values, (r.cut i).bindings.get? name = some (value name) := by
  have hin := h.lt_of_asked (List.getElem?_eq_some_iff.1 hs).1 hask
  refine ⟨hin, ?_⟩
  obtain ⟨o, made, -, hsettles⟩ := h.settles hin hs
  have hmade : made ≠ [] := by
    rintro rfl
    exact hask (by rw [hsettles.exchanges, List.append_nil])
  obtain ⟨params, response, rfl, hperf, hr⟩ := hsettles.handled.ready hmade
  obtain ⟨hdecl, -, -, -, rfl⟩ := readiness_ready hr
  refine ⟨_, _, response, by rw [effectiveParams_eq hv], hperf, hsettles.exchanges, ?_⟩
  intro name hname
  -- every reference is declared, so it has a value in the scope
  unfold Expression.undeclared? at hdecl
  have hhas : (t.progressAt driver state i).scope.has name = true := by
    simpa using List.find?_eq_none.1 hdecl name hname
  obtain ⟨v, hv⟩ := Option.isSome_iff_exists.1 hhas
  have hscope := h.scope (Nat.le_of_lt hin)
  rw [hv, Option.getD_some, ← hv, hscope]
  rfl

variable (id : String) (started finished : Time.Moment)

/-- **What the driver is asked.** -/
theorem request_uses_latest_declarations (hd : driver.NeverExits) (hv : t.Valid) :
    ∃ r, (t.run driver state id started finished).ending.report? = some r ∧
      (∀ i s, t.statements[i]? = some s → t.Asks driver state i →
        ∃ (value : String → Value) (request : Request) (response : Response),
          request = ⟨s.expression.action, s.expression.entity,
            s.expression.params ++ s.expression.refs.mapValues value⟩ ∧
          driver.perform (t.progressAt driver state i).state request =
            (response, (t.progressAt driver state (i + 1)).state) ∧
          (t.progressAt driver state (i + 1)).exchanges =
            (t.progressAt driver state i).exchanges ++ [⟨request, response⟩] ∧
          (t.progressAt driver state (i + 1)).exchanges <+:
            (t.run driver state id started finished).progress.exchanges ∧
          ∀ name ∈ s.expression.refs.values,
            (r.cut i).bindings.get? name = some (value name) ∧
            ∃ j, Latest r.statements i name j ∧ valueAt r.statements j = some (value name)) ∧
      (∀ i < r.statements.length, ∀ name v, (r.cut i).bindings.get? name = some v ↔
        ∃ j, Latest r.statements i name j ∧ valueAt r.statements j = some v) ∧
      (t.run driver state id started finished).progress.exchanges =
        (t.progressAt driver state t.statements.length).exchanges ∧
      r.bindings = (t.run driver state id started finished).progress.scope := by
  obtain ⟨r, n, hr, h⟩ := @exists_report σ driver state t id started finished hd
  refine ⟨r, hr, ?_, fun i hi => h.cut_bindings_iff hi,
    run_exchanges id started finished, by rw [run_scope]; exact h.bindings⟩
  intro i s hs hask
  have hvalid : s.expression.clash? = none :=
    hv _ (List.mem_map.2 ⟨s, List.mem_of_getElem? hs, rfl⟩)
  obtain ⟨hin, value, request, response, hrequest, hperf, hx, hvalues⟩ := h.asked hs hvalid hask
  obtain ⟨o, made, hset, -⟩ := h.settles hin hs
  have hlen := (List.getElem?_eq_some_iff.1 hset).1
  refine ⟨value, request, response, hrequest, hperf, hx, ?_, fun name hname => ?_⟩
  · rw [run_exchanges, h.exchanges]; exact exchanges_grow hin h.le h.trace
  · have hget := hvalues name hname
    exact ⟨hget, (h.cut_bindings_iff hlen name _).1 hget⟩

/-- Every request is answered with the number of requests before it. -/
def counting : Driver ℕ where
  perform count _ := ({ reply := .value (.int count) }, count + 1)

/-- A name that is declared twice, then referred to. -/
def shadowed : Template where
  statements :=
    [{ node := .declaration { name := "disk" } { action := "create", entity := "disk" } },
     { node := .declaration { name := "disk" } { action := "create", entity := "disk" } },
     { node := .expression
        { action := "attach", entity := "disk", params := [("port", .int 5)],
          refs := [("disk", "disk")] } }]

theorem request_uses_shadowing_declaration :
    counting.NeverExits ∧ shadowed.Valid ∧ shadowed.Asks counting 0 2 ∧
      ∃ (r : Report) (v : Value) (response : Response),
        (shadowed.run counting 0 "run" default default).ending.report? = some r ∧
        (shadowed.progressAt counting 0 3).exchanges =
          (shadowed.progressAt counting 0 2).exchanges ++
            [⟨⟨"attach", "disk", [("port", .int 5), ("disk", v)]⟩, response⟩] ∧
        ∃ j, Latest r.statements 2 "disk" j ∧ valueAt r.statements j = some v := by
  have hd : counting.NeverExits := by intro _ _ _ h; cases h
  have hv : shadowed.Valid := by
    intro e he
    simp only [Template.expressions, shadowed, List.map_cons, List.map_nil, List.mem_cons,
      List.not_mem_nil, or_false] at he
    rcases he with rfl | rfl | rfl <;> decide
  have hask : shadowed.Asks counting 0 2 := fun h => absurd (congrArg List.length h) (by decide)
  obtain ⟨r, hr, hasked, -⟩ := request_uses_latest_declarations "run" default default hd hv
  obtain ⟨value, request, response, rfl, -, hx, -, hvalues⟩ := hasked 2 _ rfl hask
  exact ⟨hd, hv, hask, r, value "disk", response, hr, hx, (hvalues "disk" (by decide)).2⟩

end Provision
