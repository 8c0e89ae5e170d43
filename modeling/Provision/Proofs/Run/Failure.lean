import Provision.Proofs.Run.Abort
import Provision.Proofs.Run.Resolution
import Provision.Proofs.Text.Order

/-!
# How failures spread

A statement that does not abort the run gets its outcome from one of five **causes**, of which
the first that applies counts: a reference to a failed mark, open holes, open aliases, a fault of
the driver, a value of the driver. In the first three the driver is not asked. Hence a failure is
passed on along references, from declaration to declaration, and no statement it reaches is
handed to the driver.

* `Reports.cause`: the cause of a settled statement, told from the report.
* `failures_follow_references`: **five causes, and what follows for chains of references.**
-/

namespace Provision

open Run

/-- The latest declaration of a name before position `k` holds a failed mark. -/
def FailedBefore (ss : List Statement) (k : ℕ) (name error : String) : Prop :=
  ∃ j, Latest ss k name j ∧ valueAt ss j = some (.failed error)

/-- The first reference of an expression, in order, to a failed mark. -/
def FirstFailed (ss : List Statement) (k : ℕ) (e : Expression) (name error : String) : Prop :=
  ∃ earlier later, e.refs.values = earlier ++ name :: later ∧ FailedBefore ss k name error ∧
    ∀ n ∈ earlier, ∀ error', ¬ FailedBefore ss k n error'

/-- No reference of an expression is to a failed mark. -/
def NoneFailed (ss : List Statement) (k : ℕ) (e : Expression) : Prop :=
  ∀ name ∈ e.refs.values, ∀ error, ¬ FailedBefore ss k name error

/-- The one request that was made is for the action of an expression, and the driver's answer to
it, in the given state, is the given reply. -/
def Answered {σ : Type} (driver : Driver σ) (state : σ) (e : Expression) (made : List Exchange)
    (reply : Reply) : Prop :=
  ∃ x, made = [x] ∧ x.request.action = e.action ∧ x.request.entity = e.entity ∧
    (driver.perform state x.request).1 = x.response ∧ x.response.reply = reply

/-- A text that lists names in order, with commas. -/
def Lists (names : List String) (text : String) : Prop :=
  ∃ sorted : List String, sorted.Perm names ∧
    sorted.Pairwise (fun a b => Text.precedes a b = true) ∧ text = ", ".intercalate sorted

/-- What a statement has its outcome from. -/
inductive Cause where
  | failedReference (name error : String)
  | openHoles
  | openAliases
  | raised (f : Fault)
  | returned (v : Value)

/-- When a cause applies: none of those before it does. `made` are the requests of the statement
and `state` is the driver's state before them. -/
def Cause.Applies {σ : Type} (driver : Driver σ) (state : σ) (ss : List Statement) (k : ℕ)
    (e : Expression) (made : List Exchange) : Cause → Prop
  | .failedReference name error => FirstFailed ss k e name error ∧ made = []
  | .openHoles => NoneFailed ss k e ∧ e.holes ≠ [] ∧ made = []
  | .openAliases => NoneFailed ss k e ∧ e.holes = [] ∧ e.aliases ≠ [] ∧ made = []
  | .raised f =>
    NoneFailed ss k e ∧ e.holes = [] ∧ e.aliases = [] ∧ Answered driver state e made (.fault f)
  | .returned v =>
    NoneFailed ss k e ∧ e.holes = [] ∧ e.aliases = [] ∧ Answered driver state e made (.value v)

/-- The outcome that a cause gives. -/
def Cause.Gives (e : Expression) : Cause → Outcome → Prop
  | .failedReference name error, o =>
    o = { error := "reference '$" ++ name ++ "' points to a failed statement: " ++ error }
  | .openHoles, o =>
    ∃ names, Lists e.holes.values names ∧ o = { error := "unresolved hole(s): " ++ names }
  | .openAliases, o =>
    ∃ names, Lists e.aliases.values names ∧ o = { error := "unresolved alias(es): " ++ names }
  | .raised f, o => o = { error := if f.message = "" then f.label else f.message }
  | .returned v, o => o = { result := v }

theorem lists_sorted (names : List String) : Lists names (Text.listing (Text.sorted names)) :=
  ⟨Text.sorted names, Text.sorted_perm names, Text.sorted_pairwise names, rfl⟩

/-! ## The causes -/

variable {σ : Type} {driver : Driver σ} {state : σ} {t : Template} {r : Report} {n k : ℕ}

/-- A name has a failed mark in the scope iff its latest declaration holds one. -/
theorem Reports.failedBefore_iff (h : Reports driver state t r n) (hk : k < r.statements.length)
    (hkn : k ≤ n) (name error : String) :
    (t.progressAt driver state k).scope.get? name = some (.failed error) ↔
      FailedBefore r.statements k name error := by
  rw [h.scope hkn]
  exact h.cut_bindings_iff hk name _

section Scope

variable {scope : Scope} {ss : List Statement}
  (hscope : ∀ name error, scope.get? name = some (.failed error) ↔ FailedBefore ss k name error)

include hscope

/-- The first failed reference found in a scope is the first one by the latest declarations. -/
theorem failedReference?_eq_some_iff (e : Expression) (name error : String) :
    e.failedReference? scope = some (name, error) ↔ FirstFailed ss k e name error := by
  unfold Expression.failedReference? FirstFailed
  rw [List.findSome?_eq_some_iff]
  constructor
  · rintro ⟨earlier, n, later, hrefs, hn, hearlier⟩
    split at hn
    · rename_i err herr
      cases hn
      refine ⟨earlier, later, hrefs, (hscope _ _).1 herr, fun m hm err' hfail => ?_⟩
      have hnone := hearlier m hm
      rw [(hscope _ _).2 hfail] at hnone
      cases hnone
    · cases hn
  · rintro ⟨earlier, later, hrefs, hfail, hearlier⟩
    refine ⟨earlier, name, later, hrefs, by rw [(hscope _ _).2 hfail], fun m hm => ?_⟩
    split
    · rename_i err herr
      exact absurd ((hscope _ _).1 herr) (hearlier m hm err)
    · rfl

theorem failedReference?_eq_none_iff (e : Expression) :
    e.failedReference? scope = none ↔ NoneFailed ss k e := by
  unfold Expression.failedReference? NoneFailed
  rw [List.findSome?_eq_none_iff]
  constructor
  · intro h name hname error hfail
    have hnone := h name hname
    rw [(hscope _ _).2 hfail] at hnone
    cases hnone
  · intro h name hname
    split
    · rename_i err herr
      exact absurd ((hscope _ _).1 herr) (h name hname err)
    · rfl

/-- The cause behind an obstacle. -/
theorem cause_of_blocked {e : Expression} {obstacle : Obstacle}
    (h : e.readiness scope = .blocked obstacle) :
    ∃ c : Cause, c.Applies driver state ss k e [] ∧ c.Gives e { error := obstacle.message } := by
  unfold Expression.readiness at h
  split at h
  · cases h
  · split at h
    · rename_i name error hf
      cases h
      have hfirst := (failedReference?_eq_some_iff hscope e name error).1 hf
      exact ⟨.failedReference name error, ⟨hfirst, rfl⟩, rfl⟩
    · rename_i hf
      have hnone := (failedReference?_eq_none_iff hscope e).1 hf
      split at h
      · rename_i hholes
        cases h
        exact ⟨.openHoles, ⟨hnone, by simpa using hholes, rfl⟩, _, lists_sorted _, rfl⟩
      · rename_i hholes
        split at h
        · rename_i haliases
          cases h
          exact ⟨.openAliases, ⟨hnone, by simpa using hholes, by simpa using haliases, rfl⟩, _,
            lists_sorted _, rfl⟩
        · cases h

/-- **Every statement that is handled has a cause.** -/
theorem exists_cause {after : σ} {s : Statement} {o : Outcome} {made : List Exchange}
    (h : Handled driver scope state s o made after) :
    ∃ c : Cause, c.Applies driver state ss k s.expression made ∧ c.Gives s.expression o := by
  cases h with
  | blocked obstacle hb => exact cause_of_blocked hscope hb
  | raised params response f after hr hp hreply =>
    obtain ⟨-, hf, hholes, haliases, -⟩ := readiness_ready hr
    have hnone := (failedReference?_eq_none_iff hscope s.expression).1 hf
    exact ⟨.raised f, ⟨hnone, hholes, haliases, _, rfl, rfl, rfl, congrArg Prod.fst hp, hreply⟩,
      rfl⟩
  | returned params response v after hr hp hreply =>
    obtain ⟨-, hf, hholes, haliases, -⟩ := readiness_ready hr
    have hnone := (failedReference?_eq_none_iff hscope s.expression).1 hf
    exact ⟨.returned v, ⟨hnone, hholes, haliases, _, rfl, rfl, rfl, congrArg Prod.fst hp, hreply⟩,
      rfl⟩

/-- **At most one cause applies.** -/
theorem cause_unique {e : Expression} {made : List Exchange} {c c' : Cause}
    (h : c.Applies driver state ss k e made) (h' : c'.Applies driver state ss k e made) :
    c' = c := by
  -- in terms of the scope, the conditions of two different causes exclude each other
  cases c <;> cases c' <;>
    simp only [Cause.Applies, Answered, ← failedReference?_eq_some_iff hscope,
      ← failedReference?_eq_none_iff hscope] at h h' <;>
    grind

end Scope

/-- **The cause of a settled statement.** -/
theorem Reports.cause (h : Reports driver state t r n) (hk : k < n) {s : Statement}
    (hs : t.statements[k]? = some s) :
    ∃ (o : Outcome) (made : List Exchange) (c : Cause), r.statements[k]? = some (s.settled o) ∧
      (t.progressAt driver state (k + 1)).exchanges =
        (t.progressAt driver state k).exchanges ++ made ∧
      c.Applies driver (t.progressAt driver state k).state r.statements k s.expression made ∧
      c.Gives s.expression o ∧
      ∀ c' : Cause, c'.Applies driver (t.progressAt driver state k).state r.statements k
        s.expression made → c' = c := by
  obtain ⟨o, made, hset, hsettles⟩ := h.settles hk hs
  have hlen := (List.getElem?_eq_some_iff.1 hset).1
  have hscope := h.failedBefore_iff hlen (Nat.le_of_lt hk)
  obtain ⟨c, happ, hgives⟩ := exists_cause hscope hsettles.handled
  exact ⟨o, made, c, hset, hsettles.exchanges, happ, hgives,
    fun c' happ' => cause_unique hscope happ happ'⟩

/-! ## Chains of references -/

/-- Statement `k` has a reference whose latest declaration is statement `j`. -/
def Refers (ss : List Statement) (k j : ℕ) : Prop :=
  ∃ s name, ss[k]? = some s ∧ name ∈ s.expression.refs.values ∧ Latest ss k name j

/-- Statement `k` failed; if its name is bound, it is to a mark with the statement's error. -/
def FailsAt (ss : List Statement) (k : ℕ) : Prop :=
  ∃ s, ss[k]? = some s ∧ s.outcome.error ≠ "" ∧
    ∀ i, s.identifier? = some i → i.bound = true → i.value = .failed s.outcome.error

/-- A failed statement of a report is marked with its error. -/
theorem Reports.failsAt (h : Reports driver state t r n) {a : Statement}
    (ha : r.statements[k]? = some a) (hfail : a.outcome.error ≠ "") : FailsAt r.statements k := by
  refine ⟨a, ha, hfail, fun i hi hbound => ?_⟩
  have hklen := (List.getElem?_eq_some_iff.1 ha).1
  rcases Nat.eq_or_lt_of_le (h.le_of_lt_length hklen) with rfl | hlt
  · -- the statement that aborted the run has nothing bound
    obtain ⟨s, name, -, hlast⟩ := h.aborting hklen
    rw [hlast] at ha
    cases ha
    rw [Statement.unbound_aborting hi] at hbound
    cases hbound
  · obtain ⟨s, hs⟩ := h.exists_statement hlt
    obtain ⟨o, made, hset, -⟩ := h.settles hlt hs
    rw [hset] at ha
    cases ha
    rw [(Statement.bound_settled hi).2]
    exact boundValue_of_error hfail

/-- **A failure is passed on** to every statement that refers to the failed one. -/
theorem Reports.failure_step (h : Reports driver state t r n) {j : ℕ}
    (hj : FailsAt r.statements j) (href : Refers r.statements k j) :
    FailsAt r.statements k ∧ ¬ t.Asks driver state k ∧
      (k < n → ∃ s name error, r.statements[k]? = some s ∧
        FirstFailed r.statements k s.expression name error ∧
        s.outcome.error =
          "reference '$" ++ name ++ "' points to a failed statement: " ++ error) := by
  obtain ⟨a, name, ha, hname, hlatest⟩ := href
  have hklen := (List.getElem?_eq_some_iff.1 ha).1
  have hkn := h.le_of_lt_length hklen
  -- the latest declaration of the name holds a failed mark
  have hfailed : ∃ error, FailedBefore r.statements k name error := by
    obtain ⟨b, hb, herr, hmark⟩ := hj
    have hdecl := hlatest.declares
    rw [hb] at hdecl
    obtain ⟨i, hi, -⟩ := Option.map_eq_some_iff.1 hdecl
    have hbound := h.boundBefore j (Nat.lt_of_lt_of_le hlatest.before hkn) b hb i hi
    refine ⟨b.outcome.error, j, hlatest, ?_⟩
    unfold valueAt
    rw [hb, Option.bind_some, hi, Option.map_some, hmark i hi hbound]
  obtain ⟨error, hfailed⟩ := hfailed
  rcases Nat.eq_or_lt_of_le hkn with rfl | hlt
  · -- the run may be aborted right here, which is a failure too
    obtain ⟨s, undeclared, habort, hlast⟩ := h.aborting hklen
    refine ⟨h.failsAt hlast (undeclaredMessage_ne_empty undeclared), ?_,
      fun hlt => absurd hlt (Nat.lt_irrefl k)⟩
    exact fun hask => hask habort.step.exchanges
  · obtain ⟨s, hs⟩ := h.exists_statement hlt
    obtain ⟨o, made, c, hset, hx, happ, hgives, -⟩ := h.cause hlt hs
    rw [hset] at ha
    cases ha
    rw [Statement.expression_settled] at hname
    -- the other four causes need all references to be good
    have hnot : ¬ NoneFailed r.statements k s.expression :=
      fun hnone => hnone name hname error hfailed
    cases c with
    | failedReference first message =>
      obtain ⟨hfirst, rfl⟩ := happ
      cases hgives
      refine ⟨h.failsAt hset (by simp), ?_, fun _ =>
        ⟨_, first, message, hset, by rw [Statement.expression_settled]; exact hfirst, rfl⟩⟩
      exact fun hask => hask (by rw [hx, List.append_nil])
    | openHoles => exact absurd happ.1 hnot
    | openAliases => exact absurd happ.1 hnot
    | raised f => exact absurd happ.1 hnot
    | returned v => exact absurd happ.1 hnot

variable (id : String) (started finished : Time.Moment)

/-- **Failures follow references and never reach the driver.** -/
theorem failures_follow_references (hd : driver.NeverExits) :
    ∃ r, (t.run driver state id started finished).ending.report? = some r ∧
      (∀ k a, r.statements[k]? = some a → (r.aborted = "" ∨ k + 1 < r.statements.length) →
        ∃ (s : Statement) (made : List Exchange) (c : Cause),
          t.statements[k]? = some s ∧ a.expression = s.expression ∧
          (∀ i, a.identifier? = some i → i.bound = true ∧ i.value = boundValue a.outcome) ∧
          (t.progressAt driver state (k + 1)).exchanges =
            (t.progressAt driver state k).exchanges ++ made ∧
          c.Applies driver (t.progressAt driver state k).state r.statements k s.expression made ∧
          c.Gives s.expression a.outcome ∧
          ∀ c' : Cause, c'.Applies driver (t.progressAt driver state k).state r.statements k
            s.expression made → c' = c) ∧
      (t.run driver state id started finished).progress.exchanges =
        (t.progressAt driver state t.statements.length).exchanges ∧
      (∀ (m : ℕ) (chain : ℕ → ℕ),
        (∃ a, r.statements[chain 0]? = some a ∧ a.outcome.error ≠ "") →
        (∀ i < m, Refers r.statements (chain (i + 1)) (chain i)) →
        ∀ i ≤ m, FailsAt r.statements (chain i) ∧
          (0 < i → ¬ t.Asks driver state (chain i) ∧
            ((r.aborted = "" ∨ chain i + 1 < r.statements.length) →
              ∃ s name error, r.statements[chain i]? = some s ∧
                FirstFailed r.statements (chain i) s.expression name error ∧
                s.outcome.error =
                  "reference '$" ++ name ++ "' points to a failed statement: " ++ error))) := by
  obtain ⟨r, n, hr, h⟩ := @exists_report σ driver state t id started finished hd
  refine ⟨r, hr, ?_, run_exchanges id started finished, ?_⟩
  · intro k a ha hna
    have hk := h.lt_of_not_aborting (List.getElem?_eq_some_iff.1 ha).1 hna
    obtain ⟨s, hs⟩ := h.exists_statement hk
    obtain ⟨o, made, c, hset, hx, happ, hgives, hunique⟩ := h.cause hk hs
    rw [hset] at ha
    cases ha
    exact ⟨s, made, c, hs, s.expression_settled o, fun i => Statement.bound_settled, hx, happ,
      hgives, hunique⟩
  · intro m chain ⟨a, ha, hfail⟩ hrefers i
    -- along the chain: each member refers to the one before it
    induction i with
    | zero =>
      intro _
      exact ⟨h.failsAt ha hfail, fun h0 => absurd h0 (Nat.lt_irrefl 0)⟩
    | succ i ih =>
      intro hi
      obtain ⟨hfails, hask, hcause⟩ := h.failure_step (ih (by omega)).1 (hrefers i hi)
      refine ⟨hfails, fun _ => ⟨hask, fun hna => ?_⟩⟩
      obtain ⟨s, hs, -⟩ := hfails
      exact hcause (h.lt_of_not_aborting (List.getElem?_eq_some_iff.1 hs).1 hna)

/-- Two statements depend on a network; the last one has an open hole besides. -/
def dependent : Template where
  statements :=
    [{ node := .declaration { name := "net" } { action := "create", entity := "network" } },
     { node := .declaration { name := "sub" }
        { action := "create", entity := "subnet", refs := [("network", "net")] } },
     { node := .declaration { name := "vm" }
        { action := "create", entity := "server", refs := [("subnet", "sub")],
          holes := [("size", "size")] } }]

theorem failures_follow_two_references : networkless.NeverExits ∧ ∃ r,
    (dependent.run networkless () "run" default default).ending.report? = some r ∧
      FailsAt r.statements 2 ∧ ¬ dependent.Asks networkless () 2 := by
  obtain ⟨r, hr, -, -, hchain⟩ :=
    @failures_follow_references Unit networkless () dependent "run" default default
      networkless_neverExits
  obtain rfl :
      ((dependent.run networkless () "run" default default).ending.report?).getD default = r := by
    rw [hr]; rfl
  have h := hchain 2 (fun i => i) ⟨_, rfl, by decide⟩ (by
    intro i hi
    have hi' : i = 0 ∨ i = 1 := by omega
    rcases hi' with rfl | rfl
    · exact ⟨_, "net", rfl, by decide, by decide, rfl, by omega⟩
    · exact ⟨_, "sub", rfl, by decide, by decide, rfl, by omega⟩) 2 (Nat.le_refl 2)
  exact ⟨networkless_neverExits, _, hr, h.1, (h.2 (by decide)).1⟩

end Provision
