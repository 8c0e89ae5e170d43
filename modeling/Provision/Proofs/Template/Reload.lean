import Provision.Proofs.Template.Passes
import Provision.Proofs.Template.Stored

/-!
# Documents of templates

Reading a document checks names, shapes and marks, so a template comes back from its own document
only if it still passes these checks. A template is **storable** if its statements are as they are
read and its texts are plain.

* `Template.storable_of_ofJson`: what was read is storable.
* `Template.Storable.passes`: passes with JSON values keep a template storable.
* `Template.Storable.ofJson_toJson`: a storable template comes back from its document, if its
  integers are short.
* `Template.Storable.toJson_of_long`: otherwise it has no document.
-/

namespace Provision

open Shape (Checked)
open Text (IsPlain)

/-! ## Plain records -/

theorem plain_table_set {t : Table Value} (h : (Value.table t).Throughout Value.Plain)
    {name : String} {v : Value} (hname : IsPlain name) (hv : v.Throughout Value.Plain) :
    (Value.table (t.set name v)).Throughout Value.Plain := by
  obtain ⟨hkeys, hvalues⟩ := Value.throughout_table.1 h
  refine Value.throughout_table.2 ⟨fun k hk => ?_, fun e he => ?_⟩
  · rcases Table.mem_keys_set.1 hk with rfl | hk
    · exact hname
    · exact hkeys k hk
  · rcases Table.mem_of_mem_set he with rfl | he
    · exact hv
    · exact hvalues e he

theorem plain_textTable_iff {t : Table String} :
    (textTable t).Throughout Value.Plain ↔ ∀ e ∈ t, IsPlain e.1 ∧ IsPlain e.2 := by
  have hself : Value.Plain (.table (t.mapValues Value.text)) ↔ ∀ k ∈ t.keys, IsPlain k := by
    rw [← Table.keys_mapValues Value.text]
    exact Iff.rfl
  unfold textTable
  rw [Value.throughout_table, hself]
  constructor
  · rintro ⟨hkeys, hvalues⟩ e he
    exact ⟨hkeys e.1 (List.mem_map_of_mem he),
      plain_text_iff.1 (hvalues _ (List.mem_map_of_mem he))⟩
  · intro h
    refine ⟨fun k hk => ?_, fun f hf => ?_⟩
    · obtain ⟨e, he, rfl⟩ := List.mem_map.1 hk
      exact (h e he).1
    · obtain ⟨e, he, rfl⟩ := List.mem_map.1 hf
      exact plain_text_iff.2 (h e he).2

/-- The texts of an expression are plain. -/
structure Expression.Plain (e : Expression) : Prop where
  action : IsPlain e.action
  entity : IsPlain e.entity
  params : (Value.table e.params).Throughout Value.Plain
  refs : ∀ p ∈ e.refs, IsPlain p.1 ∧ IsPlain p.2
  aliases : ∀ p ∈ e.aliases, IsPlain p.1 ∧ IsPlain p.2
  holes : ∀ p ∈ e.holes, IsPlain p.1 ∧ IsPlain p.2

theorem Expression.plain_iff (e : Expression) : e.toValue.Throughout Value.Plain ↔ e.Plain := by
  rw [Expression.throughout_iff records_plain]
  simp only [plain_text_iff, plain_textTable_iff]
  constructor
  · rintro ⟨haction, hentity, hparams, hrefs, haliases, hholes⟩
    exact ⟨haction, hentity, hparams, hrefs, haliases, hholes⟩
  · rintro ⟨haction, hentity, hparams, hrefs, haliases, hholes⟩
    exact ⟨haction, hentity, hparams, hrefs, haliases, hholes⟩

theorem Expression.Plain.names {e : Expression} (h : e.Plain) {name : String}
    (hname : name ∈ e.names) : IsPlain name := by
  unfold Expression.names at hname
  simp only [List.mem_append] at hname
  rcases hname with ((hname | hname) | hname) | hname
  · exact (Value.throughout_table.1 h.params).1 name hname
  · obtain ⟨p, hp, rfl⟩ := List.mem_map.1 hname
    exact (h.refs p hp).1
  · obtain ⟨p, hp, rfl⟩ := List.mem_map.1 hname
    exact (h.aliases p hp).1
  · obtain ⟨p, hp, rfl⟩ := List.mem_map.1 hname
    exact (h.holes p hp).1

theorem Expression.Plain.set {e : Expression} (h : e.Plain) {name : String} {v : Value}
    (hname : IsPlain name) (hv : v.Throughout Value.Plain) : (e.set name v).Plain where
  action := h.action
  entity := h.entity
  params := plain_table_set h.params hname hv
  refs p hp := h.refs p (Table.mem_erase.1 hp).1
  aliases p hp := h.aliases p (Table.mem_erase.1 hp).1
  holes p hp := h.holes p (Table.mem_erase.1 hp).1

theorem Expression.WellRead.set {e : Expression} (h : e.WellRead) (name : String) {v : Value}
    (hv : v.WellFormed) : (e.set name v).WellRead where
  clash := Expression.clash?_set h.clash name v
  params p hp := by
    rcases Table.mem_of_mem_set hp with rfl | hp
    · exact hv
    · exact h.params p hp

/-! ## Passes with JSON values -/

/-- A pass with JSON values and plain names. -/
def Pass.IsJson : Pass → Prop
  | .set _ name value => IsPlain name ∧ value.IsJson
  | .merge overrides => Value.IsJson (.table overrides)
  | .resolve _ fills => Value.IsJson (.table fills)
  | .ask asker _ => ∀ hole state answer, (asker hole state).1 = .ok answer → answer.IsJson
  | .resolveAliases values => Value.IsJson (.table values)

theorem Value.IsJson.value {t : Table Value} (h : Value.IsJson (.table t)) {v : Value}
    (hv : v ∈ t.values) : v.IsJson := by
  obtain ⟨e, he, rfl⟩ := List.mem_map.1 hv
  exact ⟨(Value.wellFormed_table.1 h.toWellFormed).2 e he,
    (Value.throughout_table.1 h.plain).2 e he⟩

theorem Pass.IsJson.given {p : Pass} (h : p.IsJson) {v : Value} (hv : p.Given v) : v.IsJson := by
  cases p with
  | set index name value =>
    cases hv
    exact h.2
  | merge overrides => exact h.value hv
  | resolve strict fills => exact h.value hv
  | ask asker state =>
    obtain ⟨hole, state, hanswer⟩ := hv
    exact h hole state v hanswer
  | resolveAliases values => exact h.value hv

theorem Pass.IsJson.new {p : Pass} (h : p.IsJson) {name : String} (hname : p.New name) :
    IsPlain name := by
  cases p with
  | set index name value =>
    cases hname
    exact h.1
  | merge overrides =>
    obtain ⟨key, hkey, entity, hcut⟩ := hname
    exact ((Value.throughout_table.1 h.plain).1 key hkey |>.cut (by decide) hcut).2
  | resolve strict fills => exact hname.elim
  | ask asker state => exact hname.elim
  | resolveAliases values => exact hname.elim

/-- **Edits with JSON values** keep an expression well read and plain. -/
theorem Expression.Edits.keeps {new : String → Prop} {given : Value → Prop}
    (hnew : ∀ name, new name → IsPlain name) (hgiven : ∀ v, given v → v.IsJson)
    {e e' : Expression} (h : e.Edits new given e') (hread : e.WellRead) (hplain : e.Plain) :
    e'.WellRead ∧ e'.Plain := by
  induction h with
  | none => exact ⟨hread, hplain⟩
  | set _ hname hv ih =>
    obtain ⟨hread, hplain⟩ := ih
    exact ⟨hread.set _ (hgiven _ hv).toWellFormed,
      hplain.set (hname.elim (hnew _) hplain.names) (hgiven _ hv).plain⟩

theorem Statement.Edits.keeps {new : String → Prop} {given : Value → Prop}
    (hnew : ∀ name, new name → IsPlain name) (hgiven : ∀ v, given v → v.IsJson)
    {s s' : Statement} (h : s.Edits new given s') (hread : s.WellRead)
    (hplain : s.toValue.Throughout Value.Plain) :
    s'.WellRead ∧ s'.toValue.Throughout Value.Plain := by
  obtain ⟨e, he, rfl⟩ := h
  rw [Statement.throughout_iff records_plain, Expression.plain_iff] at hplain ⊢
  obtain ⟨⟨hexpression, hidentifier⟩, hrest⟩ := hplain
  obtain ⟨hread', hexpression'⟩ := he.keeps hnew hgiven hread.expression hexpression
  have hread'' := hread.identifier
  rw [← Statement.expression_mapExpression (fun _ => e) s] at hread' hexpression'
  rw [← Statement.identifier?_mapExpression (fun _ => e) s] at hidentifier hread''
  exact ⟨⟨hread', hread'', hread.result⟩, ⟨hexpression', hidentifier⟩, hrest⟩

/-- The statements of a template are as they are read, and their texts are plain. -/
def Template.Storable (t : Template) : Prop :=
  ∀ s ∈ t.statements, s.WellRead ∧ s.toValue.Throughout Value.Plain

theorem Template.Edits.keeps {new : String → Prop} {given : Value → Prop}
    (hnew : ∀ name, new name → IsPlain name) (hgiven : ∀ v, given v → v.IsJson)
    {t t' : Template} (h : t.Edits new given t') (ht : t.Storable) : t'.Storable := by
  unfold Template.Storable at ht ⊢
  unfold Template.Edits at h
  generalize t.statements = ss, t'.statements = ss' at h ht ⊢
  induction h with
  | nil => exact nofun
  | cons hs _ ih =>
    obtain ⟨⟨hread, hplain⟩, hrest⟩ := List.forall_mem_cons.1 ht
    exact List.forall_mem_cons.2 ⟨hs.keeps hnew hgiven hread hplain, ih hrest⟩

/-- **Passes keep a template storable**, one after the other. -/
theorem Template.Storable.passes {t : Template} (ht : t.Storable) {passes : List Pass}
    (h : ∀ p ∈ passes, p.IsJson) : (t.after passes).Storable := by
  induction passes generalizing t with
  | nil => exact ht
  | cons p passes ih =>
    obtain ⟨hp, hrest⟩ := List.forall_mem_cons.1 h
    exact ih ((Pass.edits p t).keeps (fun _ => hp.new) (fun _ => hp.given) ht) hrest

/-! ## Documents of templates -/

/-- A document is read, and then its value is checked. -/
theorem document_eq_ok_iff {α : Type} {document name : String} {check : Value → Checked α} {a : α} :
    ((Json.read document).mapError DocumentError.json >>= fun v =>
      ((check v).settle name).mapError DocumentError.shape) = .ok a ↔
      ∃ v, Json.read document = .ok v ∧ check v = .ok a := by
  constructor
  · intro h
    obtain ⟨v, hv, hshape⟩ := ok_of_bind h
    exact ⟨v, ok_of_mapError hv, Checked.ok_of_settle (ok_of_mapError hshape)⟩
  · rintro ⟨v, hread, hvalue⟩
    rw [hread]
    show ((check v).settle name).mapError DocumentError.shape = _
    rw [hvalue]
    rfl

theorem Template.ofJson_eq_ok_iff {document : String} {t : Template} :
    Template.ofJson document = .ok t ↔
      ∃ v, Json.read document = .ok v ∧ Template.ofValue v = .ok t := document_eq_ok_iff

/-- The statements of a template that was read are as they are read. -/
theorem Template.wellRead_of_ofJson {document : String} {t : Template}
    (h : Template.ofJson document = .ok t) : ∀ s ∈ t.statements, s.WellRead := by
  obtain ⟨v, hread, hvalue⟩ := Template.ofJson_eq_ok_iff.1 h
  obtain ⟨fields, hfields, hbody⟩ := Checked.ok_of_andThen hvalue
  cases Shape.ok_of_record hfields
  obtain ⟨ss, hss, rfl⟩ := Checked.ok_of_map hbody
  intro s hs
  rcases Shape.ok_of_optionalField hss with ⟨-, rfl⟩ | ⟨w, hget, hw⟩
  · cases hs
  · exact (wellRead_of_items ((Json.denotable_of_read hread).field hget) hw s hs).1

/-- **A template that was read is storable**, if its texts are plain. -/
theorem Template.storable_of_ofJson {document : String} {t : Template}
    (h : Template.ofJson document = .ok t) (hplain : t.toValue.Throughout Value.Plain) :
    t.Storable := by
  intro s hs
  exact ⟨Template.wellRead_of_ofJson h s hs,
    (Template.throughout_iff records_plain _).1 hplain s hs⟩

namespace Template.Storable

variable {t : Template} (h : t.Storable)

include h

theorem formed : t.toValue.Throughout Value.Formed :=
  (Template.throughout_iff records_formed t).2 fun s hs => (h s hs).1.formed

theorem plain : t.toValue.Throughout Value.Plain :=
  (Template.throughout_iff records_plain t).2 fun s hs => (h s hs).2

/-- **A storable template comes back** from its document, with a line for every statement. -/
theorem ofJson_toJson (hshort : t.toValue.Throughout Value.Short)
    (hdepth : t.toValue.depth ≤ Value.depthLimit) : ∃ json lined, t.toJson = .ok json ∧
      List.Forall₂ (fun s u => s.withLine = .ok u) t.statements lined ∧
      Template.ofJson json = .ok ⟨lined⟩ := by
  have hstatements : (statementsValue t.statements).depth < t.toValue.depth :=
    Value.depth_entry (e := ("statements", statementsValue t.statements)) (by simp)
  have hline : ∀ s ∈ t.statements, ∃ u, s.withLine = .ok u ∧
      (s.withLine = .ok u ∧ s.Reloads u) := by
    intro s hs
    have hshallow := depth_statement hs
    obtain ⟨hparams, -⟩ :=
      s.short_iff.1 ((Template.throughout_iff records_short t).1 hshort s hs)
    obtain ⟨u, hu⟩ := Statement.exists_withLine
      (fun p hp => ⟨(h s hs).1.expression.params p hp, hparams p hp⟩) fun p hp => by
        have hlt := Statement.depth_params hp
        omega
    exact ⟨u, hu, hu, (h s hs).1.reloads hu⟩
  obtain ⟨lined, -, hlined⟩ := exists_mapM hline
  obtain ⟨json, hwrite, hread⟩ := Json.read_write h.formed hshort h.plain hdepth
  refine ⟨json, lined, hwrite, hlined.imp fun _ _ => And.left, ?_⟩
  have hitems : Shape.items Statement.ofValue (statementsValue t.statements).stored = .ok lined :=
    (items_statementsValue_iff fun s hs => (h s hs).1.expression.clash).2
      (hlined.imp fun _ _ => And.right)
  refine Template.ofJson_eq_ok_iff.2 ⟨_, hread, ?_⟩
  show Template.mk <$> (Shape.items Statement.ofValue (statementsValue t.statements).stored).within
    (.key "statements") = _
  rw [hitems]
  rfl

/-- **A storable template with an integer that is too long has no document.** -/
theorem toJson_of_long (hlong : ¬ t.toValue.Throughout Value.Short)
    (hdepth : t.toValue.depth ≤ Value.depthLimit) : t.toJson = .error .tooManyDigits :=
  Json.write_of_long h.formed hlong hdepth

end Template.Storable

end Provision
