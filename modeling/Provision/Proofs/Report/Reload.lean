import Provision.Proofs.Template.Reload
import Provision.Proofs.Time.Moment
import Provision.Proofs.Value.Equality
import Provision.Report.Stored

/-!
# Documents of reports

A report comes back from its own document (`Report.ofJson_toJson_iff`): its statements as they are
read, and its times from their texts. So nothing is lost when a template or a report that was read
is written and read again, also after any passes over the template (`reload_loses_nothing`).
-/

namespace Provision

open Shape (Checked)
open Text (IsPlain)

/-! ## Moments -/

theorem momentOfValue_eq_ok_iff {v : Value} {m : Time.Moment} :
    momentOfValue v = .ok m ↔ Time.read v = .ok m := by
  unfold momentOfValue
  split
  · rename_i m' hread
    rw [hread]
    exact ⟨fun h => by cases h; rfl, fun h => by cases h; rfl⟩
  all_goals
    rename_i hread
    rw [hread]
    exact ⟨nofun, nofun⟩

theorem optionalMoment_text {finished : Option Time.Moment} (h : ∀ m ∈ finished, m.InCalendar) :
    optionalMoment ((finished.map fun m => Value.text m.text).getD .null).stored =
      .ok finished := by
  cases finished with
  | none => rfl
  | some m =>
    show some <$> momentOfValue (.text m.text) = _
    rw [momentOfValue_eq_ok_iff.2 (Time.read_text (h m rfl))]
    rfl

theorem inCalendar_of_optionalMoment {v : Value} {finished : Option Time.Moment}
    (h : optionalMoment v = .ok finished) : ∀ m ∈ finished, m.InCalendar := by
  unfold optionalMoment at h
  split at h
  · cases h
    exact nofun
  · obtain ⟨found, hfound, rfl⟩ := Checked.ok_of_map h
    intro m hm
    cases hm
    exact Time.inCalendar_of_read (momentOfValue_eq_ok_iff.1 hfound)

/-! ## Reports -/

namespace Report

theorem ofJson_eq_ok_iff {now : Time.Moment} {document : String} {r : Report} :
    Report.ofJson now document = .ok r ↔
      ∃ v, Json.read document = .ok v ∧ Report.ofValue now v = .ok r := document_eq_ok_iff

/-- **The record of a report**, part by part. -/
theorem throughout_iff {p : Value → Prop} (hp : Records p) (r : Report) :
    r.toValue.Throughout p ↔ (Value.text r.id).Throughout p ∧
      (∀ s ∈ r.statements, s.toValue.Throughout p) ∧ (Value.text r.started.text).Throughout p ∧
      ((r.finished.map fun m => Value.text m.text).getD .null).Throughout p ∧
      (Value.text r.aborted).Throughout p := by
  refine (hp.throughout_record (by simp [recordFields, Table.keys])).trans ?_
  exact and_congr_right' (and_congr_left' (throughout_statementsValue hp))

theorem formed {r : Report} (h : ∀ s ∈ r.statements, s.toValue.Throughout Value.Formed) :
    r.toValue.Throughout Value.Formed := by
  refine (throughout_iff records_formed r).2 ⟨formed_text _, h, formed_text _, ?_, formed_text _⟩
  cases r.finished with
  | none => exact Value.throughout_leaf trivial trivial
  | some m => exact formed_text m.text

/-- A report has the integers of its statements. -/
theorem short_iff (r : Report) : r.toValue.Throughout Value.Short ↔
    ∀ s ∈ r.statements, s.toValue.Throughout Value.Short := by
  have hfinished : ((r.finished.map fun m => Value.text m.text).getD .null).Throughout
      Value.Short := by
    cases r.finished with
    | none => exact Value.throughout_leaf trivial trivial
    | some m => exact short_text m.text
  simp only [throughout_iff records_short, short_text, hfinished, true_and, and_true]

theorem depth_statements (r : Report) : (statementsValue r.statements).depth < r.toValue.depth :=
  Value.depth_entry (e := ("statements", statementsValue r.statements)) (by simp)

/-- **A report is written and read back** with the statements that come back, and with all else as
it is, if its integers are short. -/
theorem exists_toJson {r : Report} (hclash : ∀ s ∈ r.statements, s.expression.clash? = none)
    (hformed : ∀ s ∈ r.statements, s.toValue.Throughout Value.Formed)
    (hshort : r.toValue.Throughout Value.Short) (hplain : r.toValue.Throughout Value.Plain)
    (hdepth : r.toValue.depth ≤ Value.depthLimit) (hstarted : r.started.InCalendar)
    (hfinished : ∀ m ∈ r.finished, m.InCalendar) :
    ∃ json, r.toJson = .ok json ∧ ∀ later u, Report.ofJson later json = .ok u ↔
      ∃ us, List.Forall₂ Statement.Reloads r.statements us ∧ u = { r with statements := us } := by
  obtain ⟨json, hwrite, hstored⟩ := Json.read_write (formed hformed) hshort hplain hdepth
  refine ⟨json, hwrite, fun later u => ?_⟩
  have hread : Report.ofValue later r.toValue.stored = (Report.mk <$> Checked.ok r.id
    <*> (Shape.items Statement.ofValue (statementsValue r.statements).stored).within
      (.key "statements")
    <*> (momentOfValue (.text r.started.text)).within (.key "started_at")
    <*> (optionalMoment ((r.finished.map fun m => Value.text m.text).getD .null).stored).within
      (.key "finished_at")
    <*> Checked.ok r.aborted) := rfl
  rw [momentOfValue_eq_ok_iff.2 (Time.read_text hstarted), optionalMoment_text hfinished] at hread
  have hjson : Report.ofJson later json = .ok u ↔
      Report.ofValue later r.toValue.stored = .ok u := by
    rw [ofJson_eq_ok_iff, hstored]
    exact ⟨fun ⟨_, hv, h⟩ => by cases hv; exact h, fun h => ⟨_, rfl, h⟩⟩
  rw [hjson, hread]
  constructor
  · intro h
    obtain ⟨f₁, _, h₁, ⟨⟩, rfl⟩ := Checked.ok_of_seq h
    obtain ⟨f₂, _, h₂, ⟨⟩, rfl⟩ := Checked.ok_of_seq h₁
    obtain ⟨f₃, _, h₃, ⟨⟩, rfl⟩ := Checked.ok_of_seq h₂
    obtain ⟨f₄, us, ⟨⟩, hus, rfl⟩ := Checked.ok_of_seq h₃
    exact ⟨us, (items_statementsValue_iff hclash).1 (Checked.within_eq_ok_iff.1 hus), rfl⟩
  · rintro ⟨us, hus, rfl⟩
    rw [(items_statementsValue_iff hclash).2 hus]
    rfl

/-- **A report with an integer that is too long has no document.** -/
theorem toJson_of_long {r : Report}
    (hformed : ∀ s ∈ r.statements, s.toValue.Throughout Value.Formed)
    (hlong : ¬ r.toValue.Throughout Value.Short) (hdepth : r.toValue.depth ≤ Value.depthLimit) :
    r.toJson = .error .tooManyDigits :=
  Json.write_of_long (formed hformed) hlong hdepth

/-- A report as it is read. -/
structure WellRead (r : Report) : Prop where
  statements : ∀ s ∈ r.statements,
    s.WellRead ∧ s.toValue.Throughout Value.Short ∧ s.withLine = .ok s
  started : r.started.InCalendar
  finished : ∀ m ∈ r.finished, m.InCalendar

/-- **What is read is well read**, if the start is given. -/
theorem wellRead {now : Time.Moment} {fields : Table Value} {r : Report}
    (hfields : Value.Denotable (.table fields)) (hstart : fields.has "started_at" = true)
    (h : Report.ofValue now (.table fields) = .ok r) : r.WellRead := by
  obtain ⟨_, hrecord, hbody⟩ := Checked.ok_of_andThen h
  cases Shape.ok_of_record hrecord
  obtain ⟨f₁, aborted, h₁, -, rfl⟩ := Checked.ok_of_seq hbody
  obtain ⟨f₂, finished, h₂, hfinished, rfl⟩ := Checked.ok_of_seq h₁
  obtain ⟨f₃, started, h₃, hstarted, rfl⟩ := Checked.ok_of_seq h₂
  obtain ⟨f₄, statements, h₄, hstatements, rfl⟩ := Checked.ok_of_seq h₃
  obtain ⟨id, -, rfl⟩ := Checked.ok_of_map h₄
  refine ⟨?_, ?_, ?_⟩
  · rcases Shape.ok_of_optionalField hstatements with ⟨-, rfl⟩ | ⟨w, hget, hw⟩
    · exact List.forall_mem_nil _
    · exact wellRead_of_items (hfields.field hget) hw
  · rcases Shape.ok_of_optionalField hstarted with ⟨hnone, -⟩ | ⟨w, hget, hw⟩
    · rw [Table.has, hnone] at hstart
      cases hstart
    · exact Time.inCalendar_of_read (momentOfValue_eq_ok_iff.1 hw)
  · rcases Shape.ok_of_optionalField hfinished with ⟨-, rfl⟩ | ⟨w, hget, hw⟩
    · exact fun m hm => absurd hm (Option.not_mem_none m)
    · exact inCalendar_of_optionalMoment hw

/-- **A report as it is read comes back** from its document. -/
theorem WellRead.exists_toJson {r : Report} (h : r.WellRead)
    (hplain : r.toValue.Throughout Value.Plain) (hdepth : r.toValue.depth ≤ Value.depthLimit) :
    ∃ json, r.toJson = .ok json ∧ ∀ later, Report.ofJson later json = .ok r := by
  have hreloads : List.Forall₂ Statement.Reloads r.statements r.statements := by
    refine List.forall₂_same.2 fun s hs => ?_
    obtain ⟨hread, -, hline⟩ := h.statements s hs
    exact hread.reloads hline
  obtain ⟨json, hwrite, hread⟩ := Report.exists_toJson
    (fun s hs => (h.statements s hs).1.expression.clash)
    (fun s hs => (h.statements s hs).1.formed)
    (r.short_iff.2 fun s hs => (h.statements s hs).2.1) hplain hdepth h.started h.finished
  exact ⟨json, hwrite, fun later => (hread later r).2 ⟨r.statements, hreloads, rfl⟩⟩

end Report

/-- **Saving and loading loses nothing**, as long as integers can be written. A template that was
read and went through passes with JSON values comes back from its document as it is, except that an
empty line becomes the canonical text of its statement, if every integer in it has at most
`Text.digitLimit` digits; otherwise it has no document. A report that was read with its start given
always comes back as it is, whenever it is loaded. -/
theorem reload_loses_nothing :
    (∀ (document : String) (t : Template) (passes : List Pass),
      Template.ofJson document = .ok t →
      t.toValue.Throughout Value.Plain →
      (∀ p ∈ passes, p.IsJson) →
      (t.after passes).toValue.depth ≤ Value.depthLimit →
      ((t.after passes).toValue.Throughout Value.Short →
        ∃ json lined, (t.after passes).toJson = .ok json ∧
          List.Forall₂ (fun s u => s.withLine = .ok u) (t.after passes).statements lined ∧
          Template.ofJson json = .ok ⟨lined⟩) ∧
      (¬ (t.after passes).toValue.Throughout Value.Short →
        (t.after passes).toJson = .error .tooManyDigits)) ∧
    (∀ (now : Time.Moment) (document : String) (fields : Table Value) (r : Report),
      Json.read document = .ok (.table fields) →
      fields.has "started_at" = true →
      Report.ofJson now document = .ok r →
      r.toValue.Throughout Value.Plain →
      r.toValue.depth ≤ Value.depthLimit →
      ∃ json, r.toJson = .ok json ∧ ∀ later, Report.ofJson later json = .ok r) := by
  refine ⟨fun document t passes hread hplain hpasses hdepth => ?_,
    fun now document fields r hdocument hstart hread hplain hdepth => ?_⟩
  · have hstorable := (Template.storable_of_ofJson hread hplain).passes hpasses
    exact ⟨fun hshort => hstorable.ofJson_toJson hshort hdepth,
      fun hlong => hstorable.toJson_of_long hlong hdepth⟩
  · obtain ⟨v, hv, hvalue⟩ := Report.ofJson_eq_ok_iff.1 hread
    rw [hdocument] at hv
    cases hv
    have hwell := Report.wellRead (Json.denotable_of_read hdocument) hstart hvalue
    exact hwell.exists_toJson hplain hdepth

/-- A document with a failed mark, a word for a truth value, and defaults. -/
def storedTemplate : String :=
  "\x7b\"statements\": [\x7b\"node\": \x7b\"kind\": \"declaration\", " ++
    "\"left\": \x7b\"bound\": \"yes\", " ++
      "\"value\": \x7b\"kind\": \"failed\", \"error\": \"gone\"\x7d\x7d, " ++
    "\"right\": \x7b\"holes\": \x7b\"size\": \"gb\"\x7d\x7d\x7d\x7d]\x7d"

/-- Its template. -/
def loadedTemplate : Template :=
  ⟨[⟨.declaration ⟨"", .failed "gone", true⟩ { holes := [("size", "gb")] },
    " = size=\x7bgb\x7d", {}⟩]⟩

/-- A document with a start that has an offset. -/
def storedReport : String := "\x7b\"id\": \"r\", \"started_at\": \"2024-01-02T03:04:05Z\"\x7d"

/-- Its report. -/
def loadedReport : Report := ⟨"r", [], ⟨⟨2024, 1, 2⟩, 3, 4, 5, 0, some 0⟩, none, ""⟩

theorem loadedTemplate_plain : loadedTemplate.toValue.Throughout Value.Plain := by
  have plain : ∀ {s : String}, Text.mark ∉ s.toList → IsPlain s := Text.isPlain_of_mark_free
  have text : ∀ {s : String}, Text.mark ∉ s.toList → (Value.text s).Throughout Value.Plain :=
    fun h => plain_text_iff.2 (plain h)
  refine (Template.throughout_iff records_plain _).2 (List.forall_mem_singleton.2 ?_)
  refine (Statement.throughout_iff records_plain _).2 ⟨⟨?_, ?_⟩, text (by decide), ?_⟩
  · exact (Expression.plain_iff _).2 ⟨plain (by decide), plain (by decide),
      Value.throughout_table.2 ⟨List.forall_mem_nil _, List.forall_mem_nil _⟩,
      List.forall_mem_nil _, List.forall_mem_nil _,
      List.forall_mem_singleton.2 ⟨plain (by decide), plain (by decide)⟩⟩
  · rintro _ ⟨⟩
    exact (Identifier.throughout_iff records_plain _).2
      ⟨text (by decide), Value.throughout_leaf trivial (plain (by decide))⟩
  · exact (Outcome.throughout_iff records_plain _).2
      ⟨Value.throughout_leaf trivial trivial, text (by decide)⟩

theorem isJson_int (n : ℤ) : Value.IsJson (.int n) :=
  ⟨Value.wellFormed_leaf trivial trivial trivial, Value.throughout_leaf trivial trivial⟩

/-- The template with its hole filled, and a parameter more. -/
def editedStatement : Statement :=
  ⟨.declaration ⟨"", .failed "gone", true⟩
    { params := [("size", .int 8), ("label", .text "a\"b")] }, " = size=\x7bgb\x7d", {}⟩

theorem editedStatement_short : editedStatement.toValue.Throughout Value.Short := by
  have hint : (Value.int 8).Throughout Value.Short :=
    (Json.denotable_int (by decide +kernel)).short
  refine editedStatement.short_iff.2 ⟨?_, ?_, Value.throughout_leaf trivial trivial⟩
  · exact List.forall_mem_cons.2 ⟨hint, List.forall_mem_singleton.2 (short_text _)⟩
  · rintro _ ⟨⟩
    exact Value.throughout_leaf trivial trivial

theorem reload_loses_nothing_edited :
    Template.ofJson storedTemplate = .ok loadedTemplate ∧
    (∃ json, (loadedTemplate.after
        [.resolve true [("gb", .int 8)], .set 0 "label" (.text "a\"b")]).toJson = .ok json ∧
      Template.ofJson json = .ok ⟨[editedStatement]⟩) ∧
    Report.ofJson default storedReport = .ok loadedReport ∧
    ∃ json, loadedReport.toJson = .ok json ∧ Report.ofJson default json = .ok loadedReport := by
  have htemplate : Template.ofJson storedTemplate = .ok loadedTemplate := by decide +kernel
  have hdocument : Json.read storedReport =
      .ok (.table [("id", .text "r"), ("started_at", .text "2024-01-02T03:04:05Z")]) := by
    decide +kernel
  have hreport : Report.ofJson default storedReport = .ok loadedReport := by decide +kernel
  have plain : ∀ {s : String}, Text.mark ∉ s.toList → IsPlain s := Text.isPlain_of_mark_free
  have text : ∀ {s : String}, Text.mark ∉ s.toList → (Value.text s).Throughout Value.Plain :=
    fun h => plain_text_iff.2 (plain h)
  have fills : Value.IsJson (.table [("gb", .int 8)]) :=
    ⟨Value.wellFormed_table.2 ⟨by simp [Table.Distinct, Table.keys],
      List.forall_mem_singleton.2 (isJson_int 8).toWellFormed⟩,
      Value.throughout_table.2 ⟨List.forall_mem_singleton.2 (plain (by decide)),
        List.forall_mem_singleton.2 (isJson_int 8).plain⟩⟩
  have label : Value.IsJson (.text "a\"b") := isJson_text (plain (by decide))
  refine ⟨htemplate, ?_, hreport, ?_⟩
  · have hpasses : ∀ p ∈ [Pass.resolve true [("gb", .int 8)], .set 0 "label" (.text "a\"b")],
        p.IsJson :=
      List.forall_mem_cons.2 ⟨fills, List.forall_mem_singleton.2 ⟨plain (by decide), label⟩⟩
    obtain ⟨hback, -⟩ := reload_loses_nothing.1 storedTemplate loadedTemplate _ htemplate
      loadedTemplate_plain hpasses (by decide +kernel)
    obtain ⟨json, lined, hjson, hlined, hread⟩ := hback
      ((Template.throughout_iff records_short _).2
        (List.forall_mem_singleton.2 editedStatement_short))
    refine ⟨json, hjson, ?_⟩
    -- the statement has a line, so it comes back as it is
    obtain ⟨u, us, hu, hus, rfl⟩ := List.forall₂_cons_left_iff.1 hlined
    obtain rfl := List.forall₂_nil_left_iff.1 hus
    cases hu
    exact hread
  · obtain ⟨json, hjson, hread⟩ := reload_loses_nothing.2 default storedReport _ loadedReport
      hdocument (by decide) hreport ((Report.throughout_iff records_plain _).2 ⟨text (by decide),
        List.forall_mem_nil _, text (by decide), Value.throughout_leaf trivial trivial,
        text (by decide)⟩) (by decide +kernel)
    exact ⟨json, hjson, hread default⟩

/-- **Not every template that passes leave has a document**: one of them can set a parameter to an
integer that is too long to be written. -/
theorem long_integer_has_no_document :
    Template.ofJson storedTemplate = .ok loadedTemplate ∧
    loadedTemplate.toValue.Throughout Value.Plain ∧
    Pass.IsJson (.set 0 "size" (.int Value.longInteger)) ∧
    (loadedTemplate.after [.set 0 "size" (.int Value.longInteger)]).toValue.depth ≤
      Value.depthLimit ∧
    (loadedTemplate.after [.set 0 "size" (.int Value.longInteger)]).toJson =
      .error .tooManyDigits := by
  have htemplate : Template.ofJson storedTemplate = .ok loadedTemplate := by decide +kernel
  have hpass : Pass.IsJson (.set 0 "size" (.int Value.longInteger)) :=
    ⟨Text.isPlain_of_mark_free (by decide), isJson_int _⟩
  have hdepth : (loadedTemplate.after [.set 0 "size" (.int Value.longInteger)]).toValue.depth ≤
      Value.depthLimit := by
    have hsix : (loadedTemplate.after [.set 0 "size" (.int Value.longInteger)]).toValue.depth =
      6 := rfl
    rw [hsix]
    decide
  have hstorable := (Template.storable_of_ofJson htemplate loadedTemplate_plain).passes
    (List.forall_mem_singleton.2 hpass)
  refine ⟨htemplate, loadedTemplate_plain, hpass, hdepth, hstorable.toJson_of_long ?_ hdepth⟩
  intro hshort
  have hstatement := (Template.throughout_iff records_short _).1 hshort _ List.mem_cons_self
  obtain ⟨hparams, -⟩ := (Statement.short_iff _).1 hstatement
  exact Value.longInteger_not_short (hparams ("size", .int Value.longInteger)
    List.mem_cons_self _ (.self _))

end Provision
