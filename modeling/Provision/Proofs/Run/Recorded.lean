import Provision.Proofs.Run.Replay
import Provision.Proofs.Template.Reload
import Provision.Proofs.Text.Order

/-!
# What a run records

A run records statements of its template with values and messages of the driver, and with messages
of its own that are made of names and earlier messages. So if a document can hold the template and
the replies, it can hold the record of the run, too.

* `Handled.isJson`: one statement, from the scope and the reply.
* `Reports.recorded`: **every statement of a report**, by induction over the run.
* `Reports.short`: its integers are short, if those of the template and of the replies are.
-/

namespace Provision

open Run
open Text (IsPlain)

/-- A reply that a document can hold and give back: a JSON value, or a fault with a plain text. -/
def Reply.IsJson : Reply → Prop
  | .value v => v.IsJson
  | .fault f => IsPlain f.summary
  | .exit _ => True

/-- A reply whose integers are short. -/
def Reply.Short : Reply → Prop
  | .value v => v.Throughout Value.Short
  | _ => True

/-- An outcome that a document can hold and give back. -/
structure Outcome.IsJson (o : Outcome) : Prop where
  result : o.result.IsJson
  error : IsPlain o.error

/-- A statement that a run can start from: no name in two tables, and a record, outcome and bound
value aside, that a document can hold. -/
structure Statement.Clean (s : Statement) : Prop where
  clash : s.expression.clash? = none
  formed : s.fresh.toValue.Throughout Value.Formed
  plain : s.fresh.toValue.Throughout Value.Plain

/-- A statement as a run records it. -/
structure Statement.Recorded (s : Statement) : Prop where
  clash : s.expression.clash? = none
  formed : s.toValue.Throughout Value.Formed
  plain : s.toValue.Throughout Value.Plain
  outcome : s.outcome.IsJson
  value : ∀ i, s.identifier? = some i →
    i.bound = false ∧ i.value = .null ∨ i.bound = true ∧ i.value = boundValue s.outcome

/-! ## Messages -/

theorem isJson_null : Value.IsJson .null :=
  ⟨Value.wellFormed_leaf trivial trivial trivial, Value.throughout_leaf trivial trivial⟩

theorem plain_undeclaredMessage {name : String} (h : IsPlain name) :
    IsPlain (undeclaredMessage name) :=
  ((Text.isPlain_of_mark_free (by decide)).append h).append (Text.isPlain_of_mark_free (by decide))

theorem plain_listing {names : List String} (h : ∀ name ∈ names, IsPlain name) :
    IsPlain (Text.listing (Text.sorted names)) :=
  (Text.isPlain_of_mark_free (by decide)).intercalate fun name hname =>
    h name ((Text.sorted_perm names).mem_iff.1 hname)

variable {scope : Scope} {e : Expression}

theorem failedReference?_mem {name error : String}
    (h : e.failedReference? scope = some (name, error)) :
    name ∈ e.refs.values ∧ .failed error ∈ scope.values := by
  obtain ⟨found, hmem, hfound⟩ := List.exists_of_findSome?_eq_some h
  split at hfound
  · rename_i err hget
    cases hfound
    exact ⟨hmem, List.mem_map_of_mem (Table.mem_of_get? hget)⟩
  · cases hfound

theorem plain_values {t : Table String} (h : ∀ p ∈ t, IsPlain p.1 ∧ IsPlain p.2) :
    ∀ v ∈ t.values, IsPlain v := by
  intro v hv
  obtain ⟨p, hp, rfl⟩ := List.mem_map.1 hv
  exact (h p hp).2

/-- The message of an obstacle is made of names and of an earlier error. -/
theorem plain_obstacle {obstacle : Obstacle} (he : e.Plain)
    (hscope : ∀ v ∈ scope.values, v.Throughout Value.Plain)
    (h : e.readiness scope = .blocked obstacle) : IsPlain obstacle.message := by
  have word : ∀ {s : String}, Text.mark ∉ s.toList → IsPlain s := Text.isPlain_of_mark_free
  unfold Expression.readiness at h
  split at h
  · cases h
  · split at h
    · rename_i name error hfailed
      cases h
      obtain ⟨hname, herror⟩ := failedReference?_mem hfailed
      exact (((word (by decide)).append (plain_values he.refs name hname)).append
        (word (by decide))).append (hscope _ herror _ (.self _))
    · split at h
      · cases h
        exact (word (by decide)).append (plain_listing (plain_values he.holes))
      · split at h
        · cases h
          exact (word (by decide)).append (plain_listing (plain_values he.aliases))
        · cases h

/-! ## Statements -/

variable {σ : Type} {driver : Driver σ} {state : σ}

/-- **The outcome of a statement** is made of the reply, or of names and earlier messages. -/
theorem Run.Handled.isJson {after : σ} {s : Statement} {o : Outcome} {made : List Exchange}
    (h : Handled driver scope state s o made after) (hs : s.expression.Plain)
    (hscope : ∀ v ∈ scope.values, v.Throughout Value.Plain)
    (hmade : ∀ x ∈ made, x.response.reply.IsJson) : o.IsJson := by
  cases h with
  | blocked obstacle hb => exact ⟨isJson_null, plain_obstacle hs hscope hb⟩
  | raised params response f after hr hp hreply =>
    have hjson := hmade _ List.mem_cons_self
    rw [hreply] at hjson
    exact ⟨isJson_null, hjson⟩
  | returned params response v after hr hp hreply =>
    have hjson := hmade _ List.mem_cons_self
    rw [hreply] at hjson
    exact ⟨hjson, show IsPlain "" from Text.isPlain_of_mark_free (by decide)⟩

variable {p : Value → Prop} {s : Statement} {o : Outcome}

theorem Statement.identifier?_fresh (s : Statement) :
    s.fresh.identifier? = s.declaredName?.map fun name => { name } := by
  obtain ⟨node, line, outcome⟩ := s
  cases node <;> rfl

/-- The record of a settled statement. -/
theorem Statement.throughout_settled (hp : Records p) (hs : s.fresh.toValue.Throughout p)
    (hvalue : (boundValue o).Throughout p) (ho : o.toValue.Throughout p) :
    (s.settled o).toValue.Throughout p := by
  rw [Statement.throughout_iff hp, Statement.expression_fresh, Statement.identifier?_fresh] at hs
  obtain ⟨⟨hexpression, hidentifier⟩, hline, -⟩ := hs
  rw [Statement.throughout_iff hp, Statement.expression_settled, Statement.identifier?_settled]
  refine ⟨⟨hexpression, fun i hi => ?_⟩, hline, ho⟩
  obtain ⟨name, hname, rfl⟩ := Option.map_eq_some_iff.1 hi
  have hfresh := hidentifier { name } (Option.map_eq_some_iff.2 ⟨name, hname, rfl⟩)
  exact (Identifier.throughout_iff hp _).2 ⟨((Identifier.throughout_iff hp _).1 hfresh).1, hvalue⟩

/-- The record of a statement that aborts the run. -/
theorem Statement.throughout_aborting (hp : Records p) (hs : s.fresh.toValue.Throughout p)
    {name : String} (hnull : p .null)
    (hmessage : (Value.text (undeclaredMessage name)).Throughout p) :
    (s.aborting name).toValue.Throughout p := by
  obtain ⟨hnode, hline, -⟩ := (Statement.throughout_iff hp _).1 hs
  exact (Statement.throughout_iff hp _).2 ⟨hnode, hline,
    (Outcome.throughout_iff hp _).2 ⟨Value.throughout_leaf trivial hnull, hmessage⟩⟩

theorem Statement.Clean.settled (hs : s.Clean) (ho : o.IsJson) : (s.settled o).Recorded where
  clash := by rw [Statement.expression_settled]; exact hs.clash
  formed := by
    refine Statement.throughout_settled records_formed hs.formed ?_
      ((Outcome.throughout_iff records_formed o).2 ⟨ho.result.formed, formed_text _⟩)
    unfold boundValue
    split
    · exact Value.throughout_leaf trivial trivial
    · exact ho.result.formed
  plain := by
    refine Statement.throughout_settled records_plain hs.plain ?_
      ((Outcome.throughout_iff records_plain o).2 ⟨ho.result.plain, plain_text_iff.2 ho.error⟩)
    unfold boundValue
    split
    · exact Value.throughout_leaf trivial ho.error
    · exact ho.result.plain
  outcome := ho
  value i hi := Or.inr (Statement.bound_settled hi)

theorem Statement.Clean.aborting (hs : s.Clean) {name : String} (hname : IsPlain name) :
    (s.aborting name).Recorded where
  clash := by
    have hexpression : (s.aborting name).expression = s.expression := Statement.expression_fresh s
    rw [hexpression]
    exact hs.clash
  formed := Statement.throughout_aborting records_formed hs.formed trivial (formed_text _)
  plain := Statement.throughout_aborting records_plain hs.plain trivial
    (plain_text_iff.2 (plain_undeclaredMessage hname))
  outcome := ⟨isJson_null, plain_undeclaredMessage hname⟩
  value i hi := by
    rw [Statement.identifier?_aborting] at hi
    obtain ⟨declared, -, rfl⟩ := Option.map_eq_some_iff.1 hi
    exact Or.inl ⟨rfl, rfl⟩

theorem Statement.Clean.expression_plain (hs : s.Clean) : s.expression.Plain := by
  have hplain := ((Statement.throughout_iff records_plain _).1 hs.plain).1.1
  rw [Statement.expression_fresh] at hplain
  exact (Expression.plain_iff _).1 hplain

/-! ## Runs -/

/-- What plain statements bind is plain. -/
theorem plain_ofStatements {ss : List Statement}
    (h : ∀ s ∈ ss, s.toValue.Throughout Value.Plain) :
    ∀ v ∈ (Scope.ofStatements ss).values, v.Throughout Value.Plain := by
  intro v hv
  obtain ⟨entry, hentry, rfl⟩ := List.mem_map.1 hv
  obtain ⟨s, hs, hbinding⟩ := List.mem_filterMap.1 (Table.mem_of_mem_ofEntries hentry)
  obtain ⟨i, hi, hbound⟩ := Option.bind_eq_some_iff.1 hbinding
  have hidentifier := ((Statement.throughout_iff records_plain s).1 (h s hs)).1.2 i hi
  split at hbound
  · cases hbound
    exact ((Identifier.throughout_iff records_plain i).1 hidentifier).2
  · cases hbound

variable {t : Template} {r : Report} {n : ℕ}

/-- **Each settled statement is recorded** with what a document can hold. -/
theorem recorded_done (ht : ∀ s ∈ t.statements, s.Clean) (hn : n ≤ t.statements.length)
    (h : (t.trace driver state n).2 = none)
    (hreplies : ∀ x ∈ (t.progressAt driver state n).exchanges, x.response.reply.IsJson) :
    ∀ s ∈ (t.progressAt driver state n).done, s.Recorded := by
  induction n with
  | zero =>
    unfold Template.progressAt
    rw [trace_zero]
    exact nofun
  | succ n ih =>
    have hs := List.getElem?_eq_getElem (show n < t.statements.length by omega)
    obtain ⟨o, made, hsettles⟩ := trace_settles hs h
    rw [hsettles.exchanges] at hreplies
    have hbefore := ih (by omega) (trace_none_of_le (Nat.le_succ n) h)
      fun x hx => hreplies x (List.mem_append_left _ hx)
    have hclean := ht _ (List.mem_of_getElem? hs)
    -- the scope holds what the statements before have bound
    have hscope : ∀ v ∈ (t.progressAt driver state n).scope.values,
        v.Throughout Value.Plain := by
      rw [scope_eq]
      exact plain_ofStatements fun s hs => (hbefore s hs).plain
    have ho := hsettles.handled.isJson hclean.expression_plain hscope
      fun x hx => hreplies x (List.mem_append_right _ hx)
    rw [hsettles.done]
    intro s hs
    rcases List.mem_append.1 hs with hs | hs
    · exact hbefore s hs
    · rw [List.mem_singleton.1 hs]
      exact hclean.settled ho

/-- **Every statement of a report** is recorded with what a document can hold. -/
theorem Reports.recorded (h : Reports driver state t r n) (ht : ∀ s ∈ t.statements, s.Clean)
    (hreplies : ∀ x ∈ (t.progressAt driver state t.statements.length).exchanges,
      x.response.reply.IsJson) :
    (∀ s ∈ r.statements, s.Recorded) ∧ IsPlain r.aborted := by
  rw [h.exchanges] at hreplies
  have hdone := recorded_done ht h.le h.trace hreplies
  rcases h.ending with ⟨hc, hn, -⟩ | ⟨s, name, ha, hst⟩
  · rw [hc.statements, hc.aborted, ← hn]
    exact ⟨hdone, Text.isPlain_of_mark_free (by decide)⟩
  · have hclean := ht s (List.mem_of_getElem? ha.statement)
    have hname : IsPlain name :=
      plain_values hclean.expression_plain.refs name (List.mem_of_find?_eq_some ha.step.undeclared)
    rw [hst, ha.aborted]
    refine ⟨fun a hmem => ?_, plain_undeclaredMessage hname⟩
    rcases List.mem_append.1 hmem with hmem | hmem
    · exact hdone a hmem
    · rw [List.mem_singleton.1 hmem]
      exact hclean.aborting hname

/-! ## Short runs -/

/-- The result of a statement is what was replied, or nothing. -/
theorem Run.Handled.short {after : σ} {made : List Exchange}
    (h : Handled driver scope state s o made after) (hmade : ∀ x ∈ made, x.response.reply.Short) :
    o.result.Throughout Value.Short := by
  cases h with
  | blocked obstacle hb => exact Value.throughout_leaf trivial trivial
  | raised params response f after hr hp hreply => exact Value.throughout_leaf trivial trivial
  | returned params response v after hr hp hreply =>
    have hshort := hmade _ List.mem_cons_self
    rw [hreply] at hshort
    exact hshort

theorem Statement.short_settled (hs : s.fresh.toValue.Throughout Value.Short)
    (ho : o.result.Throughout Value.Short) : (s.settled o).toValue.Throughout Value.Short := by
  refine Statement.throughout_settled records_short hs ?_
    ((Outcome.throughout_iff records_short o).2 ⟨ho, short_text _⟩)
  unfold boundValue
  split
  · exact Value.throughout_leaf trivial trivial
  · exact ho

theorem short_done (ht : ∀ s ∈ t.statements, s.fresh.toValue.Throughout Value.Short)
    (hn : n ≤ t.statements.length) (h : (t.trace driver state n).2 = none)
    (hreplies : ∀ x ∈ (t.progressAt driver state n).exchanges, x.response.reply.Short) :
    ∀ s ∈ (t.progressAt driver state n).done, s.toValue.Throughout Value.Short := by
  induction n with
  | zero =>
    unfold Template.progressAt
    rw [trace_zero]
    exact nofun
  | succ n ih =>
    have hs := List.getElem?_eq_getElem (show n < t.statements.length by omega)
    obtain ⟨o, made, hsettles⟩ := trace_settles hs h
    rw [hsettles.exchanges] at hreplies
    have hbefore := ih (by omega) (trace_none_of_le (Nat.le_succ n) h)
      fun x hx => hreplies x (List.mem_append_left _ hx)
    have ho := hsettles.handled.short fun x hx => hreplies x (List.mem_append_right _ hx)
    rw [hsettles.done]
    intro s hmem
    rcases List.mem_append.1 hmem with hmem | hmem
    · exact hbefore s hmem
    · rw [List.mem_singleton.1 hmem]
      exact Statement.short_settled (ht _ (List.mem_of_getElem? hs)) ho

/-- **The integers of a report are short**, if those of the template and of the replies are. -/
theorem Reports.short (h : Reports driver state t r n)
    (ht : ∀ s ∈ t.statements, s.fresh.toValue.Throughout Value.Short)
    (hreplies : ∀ x ∈ (t.progressAt driver state t.statements.length).exchanges,
      x.response.reply.Short) : ∀ s ∈ r.statements, s.toValue.Throughout Value.Short := by
  rw [h.exchanges] at hreplies
  have hdone := short_done ht h.le h.trace hreplies
  rcases h.ending with ⟨hc, hn, -⟩ | ⟨s, name, ha, hst⟩
  · rw [hc.statements, ← hn]
    exact hdone
  · rw [hst]
    intro a hmem
    rcases List.mem_append.1 hmem with hmem | hmem
    · exact hdone a hmem
    · rw [List.mem_singleton.1 hmem]
      exact Statement.throughout_aborting records_short (ht s (List.mem_of_getElem? ha.statement))
        trivial (short_text _)

end Provision
