import Provision.Proofs.Report.Reload
import Provision.Proofs.Run.Consistency
import Provision.Proofs.Run.Recorded

/-!
# Failed marks in stored reports

In a report of a run a name is bound to a failed mark iff its statement failed. A document has no
word for a mark: it is stored as a record, and whatever value of a name has the shape of that record
is read as a mark. So marks and values stay apart in a stored report iff no driver has returned such
a record for a declaration (`stored_marks_apart_iff`), and the report has a document at all; one is
a value before and a mark after (`lookalike_becomes_mark`).
-/

namespace Provision

open Run
open Shape (Checked)
open Text (IsPlain)

/-- A bound name has a failed mark iff its statement failed. -/
def Report.MarksApart (r : Report) : Prop :=
  ∀ s ∈ r.statements, ∀ i, s.identifier? = some i → i.bound = true →
    ((∃ error, i.value = .failed error) ↔ s.outcome.error ≠ "")

/-- Some name is bound to a table that has the shape of a stored mark. -/
def Report.HasLookalike (r : Report) : Prop :=
  ∃ s ∈ r.statements, ∃ i, s.identifier? = some i ∧ i.bound = true ∧ isFailedRecord i.value = true

/-! ## Values that come back -/

/-- A failed mark comes back from its record. -/
theorem restoreFailed_stored_failed (error : String) :
    restoreFailed (Value.failed error).stored = .ok (.failed error) := rfl

/-- Data comes back as it is, unless it has the shape of a stored mark. -/
theorem restoreFailed_stored {v : Value} (h : v.Throughout Value.IsData)
    (hshape : isFailedRecord v = false) : restoreFailed v.stored = .ok v := by
  rw [Value.stored_of_data h]
  exact if_neg (by rw [hshape]; exact Bool.false_ne_true)

/-- **Data with the shape of a stored mark** comes back as a mark, if at all. -/
theorem failed_of_restoreFailed {v w : Value} (hv : v.Throughout Value.IsData)
    (hshape : isFailedRecord v = true) (h : restoreFailed v.stored = .ok w) :
    ∃ error, w = .failed error := by
  rw [Value.stored_of_data hv, restoreFailed, if_pos hshape] at h
  obtain ⟨fields, -, hmark⟩ := Checked.ok_of_andThen h
  obtain ⟨f, error, hf, -, rfl⟩ := Checked.ok_of_seq hmark
  obtain ⟨kind, -, rfl⟩ := Checked.ok_of_map hf
  exact ⟨error, rfl⟩

theorem Statement.Recorded.restored {s : Statement} (h : s.Recorded) {i : Identifier}
    (hi : s.identifier? = some i) (hshape : i.bound = true → isFailedRecord i.value = false) :
    restoreFailed i.value.stored = .ok i.value := by
  rcases h.value i hi with ⟨-, hvalue⟩ | ⟨hbound, hvalue⟩
  · rw [hvalue]
    rfl
  · have hshape := hshape hbound
    rw [hvalue] at hshape ⊢
    unfold boundValue at hshape ⊢
    split
    · exact restoreFailed_stored_failed _
    · rename_i hsuccess
      rw [if_neg hsuccess] at hshape
      exact restoreFailed_stored h.outcome.result.data hshape

/-! ## Statements that come back -/

/-- What comes back for a statement has its name, its value and its outcome. -/
structure Statement.Kept (s u : Statement) : Prop where
  reloads : s.Reloads u
  identifier : u.identifier? = s.identifier?
  outcome : u.outcome = s.outcome

/-- The literal values of a recorded statement are stored as what a document can denote. -/
theorem Statement.Recorded.stored_params {s : Statement} (h : s.Recorded)
    (hshort : s.toValue.Throughout Value.Short) :
    ∀ p ∈ s.expression.stored.params, p.2.Denotable := by
  obtain ⟨⟨hexpression, -⟩, -⟩ := (Statement.throughout_iff records_formed s).1 h.formed
  obtain ⟨-, -, hparams, -⟩ := (Expression.throughout_iff records_formed _).1 hexpression
  refine List.forall_mem_map.2 fun p hp => ?_
  exact Value.stored_denotable ((Value.throughout_table.1 hparams).2 p hp)
    ((s.short_iff.1 hshort).1 p hp)

/-- A recorded statement comes back if the value of its name does. -/
theorem Statement.Recorded.exists_kept {s : Statement} (h : s.Recorded)
    (hshape : ∀ i, s.identifier? = some i → i.bound = true → isFailedRecord i.value = false)
    (hshort : s.toValue.Throughout Value.Short) (hdepth : s.toValue.depth ≤ Value.depthLimit) :
    ∃ u, (s.mapExpression Expression.stored).withLine = .ok u ∧ s.Kept u := by
  have houtcome : s.outcome.stored = s.outcome := by
    unfold Outcome.stored
    rw [Value.stored_of_data h.outcome.result.data]
  have hnode : s.node.Reloads (s.mapExpression Expression.stored).node := by
    have hrestored := fun i (hi : s.identifier? = some i) => h.restored hi (hshape i hi)
    obtain ⟨node, line, outcome⟩ := s
    cases node with
    | expression e => exact .expression e
    | declaration left right => exact .declaration right (hrestored left rfl)
  have hline : ∃ u, (s.mapExpression Expression.stored).withLine = .ok u := by
    apply Statement.exists_withLine
    · rw [Statement.expression_mapExpression]
      exact h.stored_params hshort
    · rw [Statement.expression_mapExpression]
      refine List.forall_mem_map.2 fun p hp => ?_
      have hlt := Statement.depth_params hp
      rw [Value.depth_stored]
      omega
  obtain ⟨u, hu⟩ := hline
  obtain ⟨hsame, -⟩ := Statement.withLine_eq_ok hu
  refine ⟨u, hu, ⟨_, hnode, ?_⟩, ?_, ?_⟩
  · rw [houtcome]
    exact hu
  · rw [hsame]
    exact Statement.identifier?_mapExpression _ s
  · rw [hsame]
    rfl

/-- What comes back for a declared name has the value that was read, and the outcome is the same. -/
theorem Statement.Reloads.identifier {s u : Statement} (h : s.Reloads u) {i : Identifier}
    (hi : s.identifier? = some i) :
    u.outcome.error = s.outcome.error ∧ ∃ value, restoreFailed i.value.stored = .ok value ∧
      u.identifier? = some { i with value := value } := by
  obtain ⟨node, hnode, hline⟩ := h
  rw [(Statement.withLine_eq_ok hline).1]
  refine ⟨rfl, ?_⟩
  obtain ⟨node, line, outcome⟩ := s
  cases hnode with
  | expression e => cases hi
  | @declaration left value right hvalue =>
    cases hi
    exact ⟨value, hvalue, rfl⟩

/-! ## Marks -/

/-- **In a run a bound name has a failed mark iff its statement failed.** -/
theorem Statement.Recorded.mark_iff {s : Statement} (h : s.Recorded) {i : Identifier}
    (hi : s.identifier? = some i) (hbound : i.bound = true) :
    (∃ error, i.value = .failed error) ↔ s.outcome.error ≠ "" := by
  rcases h.value i hi with ⟨hunbound, -⟩ | ⟨-, hvalue⟩
  · rw [hbound] at hunbound
    cases hunbound
  · rw [hvalue]
    constructor
    · rintro ⟨error, herror⟩ hsuccess
      have hresult : s.outcome.result = .failed error := by
        rw [← herror, boundValue_eq, if_pos hsuccess]
      have hdata := h.outcome.result.data _ (.self _)
      rw [hresult] at hdata
      exact hdata
    · intro hfailed
      exact ⟨s.outcome.error, boundValue_of_error hfailed⟩

/-- A table that looks like a stored mark was returned for a statement that succeeded. -/
theorem Statement.Recorded.success_of_lookalike {s : Statement} (h : s.Recorded) {i : Identifier}
    (hi : s.identifier? = some i) (hbound : i.bound = true)
    (hshape : isFailedRecord i.value = true) :
    s.outcome.error = "" ∧ i.value.Throughout Value.IsData := by
  have hsuccess : s.outcome.error = "" := by
    by_contra hfailed
    obtain ⟨error, hvalue⟩ := (h.mark_iff hi hbound).2 hfailed
    rw [hvalue] at hshape
    cases hshape
  rcases h.value i hi with ⟨hunbound, -⟩ | ⟨-, hvalue⟩
  · rw [hbound] at hunbound
    cases hunbound
  · rw [hvalue, boundValue_eq, if_pos hsuccess]
    exact ⟨hsuccess, h.outcome.result.data⟩

/-- Statements that keep their names and values bind the same. -/
theorem Report.bindings_kept {r : Report} {us : List Statement}
    (h : List.Forall₂ Statement.Kept r.statements us) :
    ({ r with statements := us } : Report).bindings = r.bindings := by
  have hsame : us.filterMap Report.binding? = r.statements.filterMap Report.binding? := by
    generalize r.statements = ss at h ⊢
    induction h with
    | nil => rfl
    | @cons s u _ _ hs _ ih =>
      have hbinding : Report.binding? u = Report.binding? s := by
        unfold Report.binding?
        rw [hs.identifier]
      rw [List.filterMap_cons, List.filterMap_cons, hbinding, ih]
  exact congrArg Table.ofEntries hsame

/-- A report as a run makes it. -/
structure Report.Recorded (r : Report) : Prop where
  statements : ∀ s ∈ r.statements, s.Recorded
  plain : r.toValue.Throughout Value.Plain
  started : r.started.InCalendar
  finished : ∀ m ∈ r.finished, m.InCalendar

namespace Report.Recorded

variable {r u : Report}

theorem marksApart (h : r.Recorded) : r.MarksApart :=
  fun s hs _ hi hbound => (h.statements s hs).mark_iff hi hbound

theorem marksApart_kept (h : r.Recorded) {us : List Statement}
    (hus : List.Forall₂ Statement.Kept r.statements us) :
    ({ r with statements := us } : Report).MarksApart := by
  intro u hu i hi hbound
  obtain ⟨k, hk, rfl⟩ := List.getElem_of_mem hu
  have hks : k < r.statements.length := hus.length_eq ▸ hk
  have hkept : (r.statements[k]).Kept us[k] := hus.get hks hk
  rw [hkept.identifier] at hi
  rw [hkept.outcome]
  exact h.marksApart _ (List.getElem_mem hks) i hi hbound

theorem exists_toJson (h : r.Recorded) (hshort : r.toValue.Throughout Value.Short)
    (hdepth : r.toValue.depth ≤ Value.depthLimit) :
    ∃ json, r.toJson = .ok json ∧ ∀ later u, Report.ofJson later json = .ok u ↔
      ∃ us, List.Forall₂ Statement.Reloads r.statements us ∧ u = { r with statements := us } :=
  Report.exists_toJson (fun s hs => (h.statements s hs).clash)
    (fun s hs => (h.statements s hs).formed) hshort h.plain hdepth h.started h.finished

/-- **Marks and values stay apart** iff the report can be written and nothing in it looks like a
stored mark. -/
theorem marks_kept_iff (h : r.Recorded) (hdepth : r.toValue.depth ≤ Value.depthLimit)
    (later : Time.Moment) :
    (∃ json u, r.toJson = .ok json ∧ Report.ofJson later json = .ok u ∧ u.MarksApart ∧
      u.bindings = r.bindings) ↔ r.toValue.Throughout Value.Short ∧ ¬ r.HasLookalike := by
  constructor
  · rintro ⟨json, u, hwrite, hu, hmarks, -⟩
    have hshort : r.toValue.Throughout Value.Short := by
      by_contra hlong
      rw [toJson_of_long (fun s hs => (h.statements s hs).formed) hlong hdepth] at hwrite
      cases hwrite
    obtain ⟨_, hwrite', hread⟩ := h.exists_toJson hshort hdepth
    rw [hwrite] at hwrite'
    cases hwrite'
    refine ⟨hshort, ?_⟩
    rintro ⟨s, hs, i, hi, hbound, hshape⟩
    obtain ⟨us, hus, rfl⟩ := (hread later u).1 hu
    obtain ⟨k, hk, rfl⟩ := List.getElem_of_mem hs
    have hku : k < us.length := hus.length_eq ▸ hk
    have hreloads : (r.statements[k]).Reloads us[k] := hus.get hk hku
    obtain ⟨hsuccess, hdata⟩ := (h.statements _ hs).success_of_lookalike hi hbound hshape
    obtain ⟨herror, value, hvalue, hidentifier⟩ := hreloads.identifier hi
    -- the value comes back as a mark, although the statement succeeded
    have hmark := failed_of_restoreFailed hdata hshape hvalue
    refine (hmarks us[k] (List.getElem_mem hku) _ hidentifier hbound).1 hmark ?_
    rw [herror, hsuccess]
  · rintro ⟨hshort, hnone⟩
    obtain ⟨json, hwrite, hread⟩ := h.exists_toJson hshort hdepth
    have hstatement : ∀ s ∈ r.statements,
        ∃ u, (s.mapExpression Expression.stored).withLine = .ok u ∧ s.Kept u := by
      intro s hs
      have hlt := depth_statement hs
      have hlt' := r.depth_statements
      refine (h.statements s hs).exists_kept (fun i hi hbound => ?_) (r.short_iff.1 hshort s hs)
        (by omega)
      exact Bool.eq_false_iff.2 fun hshape => hnone ⟨s, hs, i, hi, hbound, hshape⟩
    obtain ⟨us, -, hus⟩ := exists_mapM hstatement
    refine ⟨json, _, hwrite, (hread later _).2 ⟨us, hus.imp fun _ _ hs => hs.reloads, rfl⟩, ?_, ?_⟩
    · exact h.marksApart_kept hus
    · exact Report.bindings_kept hus

end Report.Recorded

/-! ## Reports of runs -/

variable {σ : Type} {driver : Driver σ} {state : σ} {t : Template} {id : String}
  {started finished : Time.Moment} {r : Report}

/-- A report has the identifier and the times of its run. -/
theorem report_header (h : (t.run driver state id started finished).ending.report? = some r) :
    r.id = id ∧ r.started = started ∧ r.finished = some finished := by
  obtain ⟨p, stop, hrun, -, -⟩ := @run_trace σ driver state t id started finished
  rw [hrun] at h
  rcases stop with _ | _ | _ | _ <;> cases h <;> exact ⟨rfl, rfl, rfl⟩

/-- **The report of a run** can be written and read, if its template and the replies can. -/
theorem report_recorded (ht : ∀ s ∈ t.statements, s.Clean) (hid : IsPlain id)
    (hstarted : started.InCalendar) (hfinished : finished.InCalendar)
    (hreplies : ∀ x ∈ (t.run driver state id started finished).progress.exchanges,
      x.response.reply.IsJson)
    (h : (t.run driver state id started finished).ending.report? = some r) : r.Recorded := by
  obtain ⟨n, hreports⟩ := reports_of_report? id started finished h
  rw [run_exchanges] at hreplies
  obtain ⟨hstatements, haborted⟩ := hreports.recorded ht hreplies
  obtain ⟨hidr, hstartedr, hfinishedr⟩ := report_header h
  refine ⟨hstatements, (Report.throughout_iff records_plain r).2 ⟨?_, ?_, ?_, ?_, ?_⟩, ?_, ?_⟩
  · rw [hidr]
    exact plain_text_iff.2 hid
  · exact fun s hs => (hstatements s hs).plain
  · exact plain_text_iff.2 (Time.plain_text _)
  · rw [hfinishedr]
    exact plain_text_iff.2 (Time.plain_text _)
  · exact plain_text_iff.2 haborted
  · rw [hstartedr]
    exact hstarted
  · rw [hfinishedr]
    rintro m ⟨⟩
    exact hfinished

theorem report_short (ht : ∀ s ∈ t.statements, s.fresh.toValue.Throughout Value.Short)
    (hreplies : ∀ x ∈ (t.run driver state id started finished).progress.exchanges,
      x.response.reply.Short)
    (h : (t.run driver state id started finished).ending.report? = some r) :
    r.toValue.Throughout Value.Short := by
  obtain ⟨n, hreports⟩ := reports_of_report? id started finished h
  rw [run_exchanges] at hreplies
  exact r.short_iff.2 (hreports.short ht hreplies)

/-- **Stored marks.** A run against a driver that returns JSON values or raises has a report in
which names are bound to failed marks exactly where statements failed. It has a document that is
read back with marks and bindings as they were if, and only if, its integers are short enough to be
written and no name was bound to a table with the shape of a stored mark. The integers are short if
those of the template and of the replies are. -/
theorem stored_marks_apart_iff (hd : driver.NeverExits) (ht : ∀ s ∈ t.statements, s.Clean)
    (hid : IsPlain id) (hstarted : started.InCalendar) (hfinished : finished.InCalendar)
    (hreplies : ∀ x ∈ (t.run driver state id started finished).progress.exchanges,
      x.response.reply.IsJson) :
    ∃ r, (t.run driver state id started finished).ending.report? = some r ∧ r.MarksApart ∧
      (r.toValue.depth ≤ Value.depthLimit → ∀ later,
        ((∃ json u, r.toJson = .ok json ∧ Report.ofJson later json = .ok u ∧ u.MarksApart ∧
            u.bindings = r.bindings) ↔
          r.toValue.Throughout Value.Short ∧ ¬ r.HasLookalike)) ∧
      ((∀ s ∈ t.statements, s.fresh.toValue.Throughout Value.Short) →
        (∀ x ∈ (t.run driver state id started finished).progress.exchanges,
          x.response.reply.Short) →
        r.toValue.Throughout Value.Short) := by
  obtain ⟨r, -, hr, -⟩ := @exists_report σ driver state t id started finished hd
  have hrecorded := report_recorded ht hid hstarted hfinished hreplies hr
  exact ⟨r, hr, hrecorded.marksApart, hrecorded.marks_kept_iff,
    fun hshort hreplies => report_short hshort hreplies hr⟩

/-- A declaration without parameters. -/
def declare (name : String) : Statement where
  node := .declaration { name } { action := "create", entity := name }
  line := name ++ " = create " ++ name

theorem declare_clean {name : String} (h : IsPlain name) : (declare name).Clean where
  clash := rfl
  formed := by
    refine Statement.WellRead.formed ⟨⟨rfl, nofun⟩, ?_, isJson_null.toWellFormed⟩
    rintro i ⟨⟩
    exact ⟨isJson_null.formed, rfl⟩
  plain := by
    have haction : IsPlain "create" := Text.isPlain_of_mark_free (by decide)
    have hequals : IsPlain " = create " := Text.isPlain_of_mark_free (by decide)
    have hempty : IsPlain "" := Text.isPlain_of_mark_free (by decide)
    refine (Statement.throughout_iff records_plain _).2 ⟨⟨?_, ?_⟩, ?_, ?_⟩
    · exact (Expression.plain_iff _).2
        ⟨haction, h, Value.throughout_table.2 ⟨nofun, nofun⟩, nofun, nofun, nofun⟩
    · rintro i ⟨⟩
      exact (Identifier.throughout_iff records_plain _).2 ⟨plain_text_iff.2 h, isJson_null.plain⟩
    · exact plain_text_iff.2 ((h.append hequals).append h)
    · exact (Outcome.throughout_iff records_plain _).2 ⟨isJson_null.plain, plain_text_iff.2 hempty⟩

theorem declare_short (name : String) :
    (declare name).fresh.toValue.Throughout Value.Short := by
  refine (Statement.short_iff _).2 ⟨nofun, ?_, Value.throughout_leaf trivial trivial⟩
  rintro i ⟨⟩
  exact Value.throughout_leaf trivial trivial

/-- Two declarations. -/
def declaring : Template := ⟨[declare "vm", declare "disk"]⟩

theorem declaring_clean : ∀ s ∈ declaring.statements, s.Clean :=
  List.forall_mem_cons.2 ⟨declare_clean (Text.isPlain_of_mark_free (by decide)),
    List.forall_mem_singleton.2 (declare_clean (Text.isPlain_of_mark_free (by decide)))⟩

theorem declaring_short :
    ∀ s ∈ declaring.statements, s.fresh.toValue.Throughout Value.Short :=
  List.forall_mem_cons.2 ⟨declare_short _, List.forall_mem_singleton.2 (declare_short _)⟩

/-- The first request is answered with a number, all others fail. -/
def failing : Driver ℕ where
  perform count _ :=
    ({ reply := if count = 0 then .value (.int 0) else .fault (.backend "Timeout" "slow") },
      count + 1)

/-- The time of a run. -/
def morning : Time.Moment := ⟨⟨2024, 1, 2⟩, 3, 4, 5, 0, none⟩

theorem morning_inCalendar : morning.InCalendar :=
  ⟨⟨⟨by decide, 31, rfl, by decide, by decide⟩, by decide, by decide, by decide, by decide, nofun⟩,
    by decide⟩

/-- The report of the two declarations, with their outcomes. -/
def declared (first second : Outcome) : Report where
  id := "run"
  statements := [(declare "vm").settled first, (declare "disk").settled second]
  started := morning
  finished := some morning

theorem stored_marks_apart_failing : failing.NeverExits ∧
    (declaring.run failing 0 "run" morning morning).ending =
      .complete (declared { result := .int 0 } { error := "slow" }) ∧
    ∃ json u, (declared { result := .int 0 } { error := "slow" }).toJson = .ok json ∧
      Report.ofJson morning json = .ok u ∧ u.MarksApart ∧
      u.bindings = [("vm", .int 0), ("disk", .failed "slow")] := by
  have hd : failing.NeverExits := by
    intro state request message h
    by_cases hzero : state = 0
    · simp [failing, hzero] at h
    · simp [failing, hzero] at h
  have hend : (declaring.run failing 0 "run" morning morning).ending =
      .complete (declared { result := .int 0 } { error := "slow" }) := rfl
  have hreplies : ∀ x ∈ (declaring.run failing 0 "run" morning morning).progress.exchanges,
      x.response.reply.IsJson := by
    refine List.forall_mem_cons.2 ⟨?_, List.forall_mem_singleton.2 ?_⟩
    · exact isJson_int 0
    · exact Text.isPlain_of_mark_free (by decide)
  obtain ⟨r, hr, -, hiff, hshort⟩ := stored_marks_apart_iff hd declaring_clean
    (Text.isPlain_of_mark_free (by decide)) morning_inCalendar morning_inCalendar hreplies
  rw [hend] at hr
  cases hr
  have hshort : (declared { result := .int 0 } { error := "slow" }).toValue.Throughout
      Value.Short := by
    refine hshort declaring_short (List.forall_mem_cons.2 ⟨?_, List.forall_mem_singleton.2 trivial⟩)
    exact (Json.denotable_int (by decide +kernel)).short
  refine ⟨hd, hend, (hiff (by decide +kernel) morning).2 ⟨hshort, ?_⟩⟩
  rintro ⟨s, hs, i, hi, -, hshape⟩
  rcases List.mem_cons.1 hs with rfl | hs
  · cases hi
    cases hshape
  · rw [List.mem_singleton.1 hs] at hi
    cases hi
    cases hshape

/-- A table with the shape of a stored mark. -/
def lookalike : Value := .table [("kind", .text "failed"), ("error", .text "boom")]

theorem lookalike_isJson : lookalike.IsJson := by
  have text : ∀ {s : String}, Text.mark ∉ s.toList → Value.IsJson (.text s) := fun h =>
    isJson_text (Text.isPlain_of_mark_free h)
  have hkeys : ∀ k ∈ ["kind", "error"], Text.mark ∉ k.toList := by decide
  have hvalues : ∀ e ∈ [("kind", Value.text "failed"), ("error", .text "boom")], e.2.IsJson :=
    List.forall_mem_cons.2 ⟨text (by decide), List.forall_mem_singleton.2 (text (by decide))⟩
  refine ⟨Value.wellFormed_table.2 ⟨by simp [Table.Distinct, Table.keys], ?_⟩, ?_⟩
  · exact fun e he => (hvalues e he).toWellFormed
  · exact Value.throughout_table.2 ⟨fun k hk => Text.isPlain_of_mark_free (hkeys k hk),
      fun e he => (hvalues e he).plain⟩

/-- Every request is answered with it. -/
def posing : Driver ℕ where
  perform count _ := ({ reply := .value lookalike }, count + 1)

/-- **A table that looks like a stored mark becomes one**: it is returned for statements that
succeed, and read back as the mark of ones that failed. -/
theorem lookalike_becomes_mark :
    (declaring.run posing 0 "run" morning morning).ending =
      .complete (declared { result := lookalike } { result := lookalike }) ∧
    (declared { result := lookalike } { result := lookalike }).hasErrors = false ∧
    ∃ json u, (declared { result := lookalike } { result := lookalike }).toJson = .ok json ∧
      Report.ofJson morning json = .ok u ∧ ¬ u.MarksApart ∧
      u.bindings = [("vm", .failed "boom"), ("disk", .failed "boom")] := by
  have hreplies : ∀ x ∈ (declaring.run posing 0 "run" morning morning).progress.exchanges,
      x.response.reply.IsJson :=
    List.forall_mem_cons.2 ⟨lookalike_isJson, List.forall_mem_singleton.2 lookalike_isJson⟩
  have hrecorded : (declared { result := lookalike } { result := lookalike }).Recorded :=
    report_recorded declaring_clean (Text.isPlain_of_mark_free (by decide)) morning_inCalendar
      morning_inCalendar hreplies rfl
  have hshort : ∀ x ∈ (declaring.run posing 0 "run" morning morning).progress.exchanges,
      x.response.reply.Short := by
    have hlookalike : lookalike.Throughout Value.Short := Value.throughout_table.2
      ⟨trivial, List.forall_mem_cons.2 ⟨short_text _, List.forall_mem_singleton.2 (short_text _)⟩⟩
    exact List.forall_mem_cons.2 ⟨hlookalike, List.forall_mem_singleton.2 hlookalike⟩
  obtain ⟨json, hwrite, hread⟩ :=
    hrecorded.exists_toJson (report_short declaring_short hshort rfl) (by decide +kernel)
  refine ⟨rfl, rfl, json, _, hwrite, (hread morning _).2 ⟨_, .cons
    ⟨_, .declaration _ rfl, rfl⟩ (.cons ⟨_, .declaration _ rfl, rfl⟩ .nil), rfl⟩, ?_, rfl⟩
  intro hmarks
  exact (hmarks _ List.mem_cons_self _ rfl rfl).1 ⟨"boom", rfl⟩ rfl

end Provision
