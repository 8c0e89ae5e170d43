import Provision.Proofs.Json.RoundTrip
import Provision.Proofs.Json.Sound
import Provision.Proofs.Shape.Checked
import Provision.Proofs.Template.Names
import Provision.Proofs.Template.Records
import Provision.Proofs.Value.Shown

/-!
# Records of templates

Each part of a template is read back from its record as it is stored. Only the value of an
identifier can come back as another one, since it is read by its shape: `Node.Reloads` and
`Statement.Reloads` say what comes back, and `Statement.ofValue_stored_iff` that it does.
-/

namespace Provision

open Shape (Checked)

/-! ## What comes back -/

/-- An expression with its literal values as they are stored. -/
def Expression.stored (e : Expression) : Expression :=
  { e with params := e.params.mapValues Value.stored }

/-- An outcome with its result as it is stored. -/
def Outcome.stored (o : Outcome) : Outcome := { o with result := o.result.stored }

theorem Outcome.ofValue_stored (o : Outcome) :
    Outcome.ofValue o.toValue.stored = .ok o.stored := rfl

theorem Identifier.ofValue_stored_iff {i j : Identifier} :
    Identifier.ofValue i.toValue.stored = .ok j ↔
      ∃ value, restoreFailed i.value.stored = .ok value ∧ j = { i with value := value } := by
  have hread : Identifier.ofValue i.toValue.stored = (Identifier.mk <$> Checked.ok i.name
    <*> (restoreFailed i.value.stored).within (.key "value") <*> Checked.ok i.bound) := rfl
  rw [hread]
  cases restoreFailed i.value.stored with
  | bad issues => exact ⟨nofun, nofun⟩
  | ok value =>
    constructor
    · rintro ⟨⟩
      exact ⟨value, rfl, rfl⟩
    · rintro ⟨_, ⟨⟩, rfl⟩
      rfl

theorem stored_textTable (t : Table String) : (textTable t).stored = textTable t := by
  unfold textTable
  rw [Value.stored_table]
  unfold Table.mapValues
  rw [List.map_map]
  rfl

theorem table_textTable (t : Table String) : Shape.table Shape.text (textTable t) = .ok t := by
  refine Shape.entries_eq_ok_iff.2 (List.forall₂_map_left_iff.2 ?_)
  exact List.forall₂_same.2 fun e _ => ⟨rfl, rfl⟩

theorem Expression.clash?_stored (e : Expression) : e.stored.clash? = e.clash? := by
  have hsources : e.stored.sources = e.sources := by
    unfold Expression.sources
    rw [Expression.stored, Table.keys_mapValues]
  unfold Expression.clash?
  rw [hsources]

theorem Expression.ofValue_stored {e : Expression} (h : e.clash? = none) :
    Expression.ofValue e.toValue.stored = .ok e.stored := by
  have hparams : Shape.table Shape.any (Value.table e.params).stored = .ok e.stored.params := by
    rw [Value.stored_table]
    exact Shape.entries_any _
  have htexts : ∀ t, Shape.table Shape.text (textTable t).stored = .ok t := by
    intro t
    rw [stored_textTable, table_textTable]
  have hnames : Expression.checkNames e.toValue.stored e.stored = .ok e.stored := by
    unfold Expression.checkNames
    rw [Expression.clash?_stored, h]
  show ((fun _ => Expression.mk) <$> Checked.ok () <*> Checked.ok e.action <*> Checked.ok e.entity
    <*> (Shape.table Shape.any (Value.table e.params).stored).within (.key "params")
    <*> (Shape.table Shape.text (textTable e.refs).stored).within (.key "refs")
    <*> (Shape.table Shape.text (textTable e.aliases).stored).within (.key "aliases")
    <*> (Shape.table Shape.text (textTable e.holes).stored).within (.key "holes")).andThen
      (Expression.checkNames e.toValue.stored) = _
  rw [hparams, htexts, htexts, htexts]
  exact hnames

/-- What comes back for a node; the value of an identifier is read by its shape. -/
inductive Node.Reloads : Node → Node → Prop
  | expression (e : Expression) : Reloads (.expression e) (.expression e.stored)
  | declaration {left : Identifier} {value : Value} (right : Expression)
      (h : restoreFailed left.value.stored = .ok value) :
      Reloads (.declaration left right) (.declaration { left with value := value } right.stored)

theorem Node.ofValue_stored_iff {n m : Node} (hclash : n.body.clash? = none) :
    Node.ofValue n.toValue.stored = .ok m ↔ n.Reloads m := by
  cases n with
  | expression e =>
    have hread : Node.ofValue (Node.expression e).toValue.stored =
      (Node.expression <$> Expression.ofValue e.toValue.stored).within (.key "expression") := rfl
    rw [hread, Expression.ofValue_stored (show e.clash? = none from hclash)]
    constructor
    · rintro ⟨⟩
      exact .expression e
    · rintro ⟨⟩
      rfl
  | declaration left right =>
    have hread : Node.ofValue (Node.declaration left right).toValue.stored =
      ((fun _ => Node.declaration) <$> Checked.ok ()
        <*> (Identifier.ofValue left.toValue.stored).within (.key "left")
        <*> (Expression.ofValue right.toValue.stored).within (.key "right")).within
          (.key "declaration") := rfl
    rw [hread, Expression.ofValue_stored (show right.clash? = none from hclash)]
    constructor
    · intro h
      obtain ⟨f, e, hf, ⟨⟩, rfl⟩ := Checked.ok_of_seq (Checked.within_eq_ok_iff.1 h)
      obtain ⟨g, j, ⟨⟩, hj, rfl⟩ := Checked.ok_of_seq hf
      obtain ⟨value, hvalue, rfl⟩ := Identifier.ofValue_stored_iff.1 (Checked.within_eq_ok_iff.1 hj)
      exact .declaration right hvalue
    · rintro ⟨⟩
      rename_i value hvalue
      rw [Identifier.ofValue_stored_iff.2 ⟨value, hvalue, rfl⟩]
      rfl

theorem Statement.checkLine_eq_ok_iff {v : Value} {s u : Statement} :
    s.checkLine v = .ok u ↔ s.withLine = .ok u := by
  unfold Statement.checkLine
  cases s.withLine with
  | error f => exact ⟨nofun, nofun⟩
  | ok lined =>
    constructor
    · rintro ⟨⟩
      rfl
    · rintro ⟨⟩
      rfl

/-- What comes back for a statement: its line is the canonical text if it has none. -/
def Statement.Reloads (s u : Statement) : Prop :=
  ∃ node, s.node.Reloads node ∧ Statement.withLine ⟨node, s.line, s.outcome.stored⟩ = .ok u

/-- **A statement is read back** from its record as it is stored. -/
theorem Statement.ofValue_stored_iff {s u : Statement} (hclash : s.expression.clash? = none) :
    Statement.ofValue s.toValue.stored = .ok u ↔ s.Reloads u := by
  have hread : Statement.ofValue s.toValue.stored = (Statement.mk <$>
    (Node.ofValue s.node.toValue.stored).within (.key "node") <*> Checked.ok s.line
    <*> (Outcome.ofValue s.outcome.toValue.stored).within (.key "outcome")).andThen
      (Statement.checkLine s.toValue.stored) := rfl
  rw [hread, Outcome.ofValue_stored]
  constructor
  · intro h
    obtain ⟨found, hfound, hline⟩ := Checked.ok_of_andThen h
    obtain ⟨f, o, hf, ⟨⟩, rfl⟩ := Checked.ok_of_seq hfound
    obtain ⟨g, line, hg, ⟨⟩, rfl⟩ := Checked.ok_of_seq hf
    obtain ⟨node, hnode, rfl⟩ := Checked.ok_of_map hg
    exact ⟨node, (Node.ofValue_stored_iff hclash).1 (Checked.within_eq_ok_iff.1 hnode),
      Statement.checkLine_eq_ok_iff.1 hline⟩
  · rintro ⟨node, hnode, hline⟩
    rw [(Node.ofValue_stored_iff hclash).2 hnode]
    exact Statement.checkLine_eq_ok_iff.2 hline

/-- **Statements are read back** one by one. -/
theorem items_statementsValue_iff {ss us : List Statement}
    (hclash : ∀ s ∈ ss, s.expression.clash? = none) :
    Shape.items Statement.ofValue (statementsValue ss).stored = .ok us ↔
      List.Forall₂ Statement.Reloads ss us := by
  unfold statementsValue
  rw [Value.stored_list, List.map_map, Shape.items_eq_ok_iff, List.forall₂_map_left_iff]
  induction ss generalizing us with
  | nil => rw [List.forall₂_nil_left_iff, List.forall₂_nil_left_iff]
  | cons s ss ih =>
    obtain ⟨hs, hrest⟩ := List.forall_mem_cons.1 hclash
    cases us with
    | nil => simp
    | cons u us =>
      rw [List.forall₂_cons, List.forall₂_cons, ih hrest]
      exact and_congr_left' (Statement.ofValue_stored_iff hs)

/-! ## Short records -/

theorem formed_textTable {t : Table String} (h : t.Distinct) :
    (textTable t).Throughout Value.Formed := by
  unfold textTable
  refine Value.throughout_table.2 ⟨?_, fun e he => ?_⟩
  · show (t.mapValues Value.text).keys.Nodup
    rw [Table.keys_mapValues]
    exact h
  · obtain ⟨f, -, rfl⟩ := List.mem_map.1 he
    exact formed_text f.2

theorem short_textTable (t : Table String) : (textTable t).Throughout Value.Short := by
  refine Value.throughout_table.2 ⟨trivial, fun e he => ?_⟩
  obtain ⟨f, -, rfl⟩ := List.mem_map.1 he
  exact short_text f.2

/-- Only literal values can have integers. -/
theorem Expression.short_iff (e : Expression) :
    e.toValue.Throughout Value.Short ↔ ∀ p ∈ e.params, p.2.Throughout Value.Short := by
  rw [Expression.throughout_iff records_short, Value.throughout_table]
  constructor
  · rintro ⟨-, -, ⟨-, hparams⟩, -⟩
    exact hparams
  · intro h
    exact ⟨short_text _, short_text _, ⟨trivial, h⟩, short_textTable _, short_textTable _,
      short_textTable _⟩

/-- A statement has the integers of its literal values, of its value and of its result. -/
theorem Statement.short_iff (s : Statement) : s.toValue.Throughout Value.Short ↔
    (∀ p ∈ s.expression.params, p.2.Throughout Value.Short) ∧
      (∀ i ∈ s.identifier?, i.value.Throughout Value.Short) ∧
      s.outcome.result.Throughout Value.Short := by
  simp only [Statement.throughout_iff records_short, Expression.short_iff,
    Identifier.throughout_iff records_short, Outcome.throughout_iff records_short, short_text,
    true_and, and_true, and_assoc]

/-! ## What was read -/

/-- An expression as it is read: no name in two tables, and well-formed data for literal values. -/
structure Expression.WellRead (e : Expression) : Prop where
  clash : e.clash? = none
  params : ∀ p ∈ e.params, p.2.WellFormed

/-- An identifier as it is read: its value comes back from its record. -/
structure Identifier.WellRead (i : Identifier) : Prop where
  formed : i.value.Throughout Value.Formed
  restored : restoreFailed i.value.stored = .ok i.value

/-- A statement as it is read. -/
structure Statement.WellRead (s : Statement) : Prop where
  expression : s.expression.WellRead
  identifier : ∀ i ∈ s.identifier?, i.WellRead
  result : s.outcome.result.WellFormed

theorem Expression.WellRead.stored {e : Expression} (h : e.WellRead) : e.stored = e := by
  have hparams : e.params.mapValues Value.stored = e.params := by
    unfold Table.mapValues
    have hsame : ∀ p ∈ e.params, (p.1, p.2.stored) = p := fun p hp => by
      rw [Value.stored_of_data (h.params p hp).data]
    rw [List.map_congr_left hsame, List.map_id']
  unfold Expression.stored
  rw [hparams]

/-- **A statement as it is read comes back** as it is, with the canonical text for an empty
line. -/
theorem Statement.WellRead.reloads {s u : Statement} (h : s.WellRead) (hline : s.withLine = .ok u) :
    s.Reloads u := by
  have hnode : s.node.Reloads s.node := by
    cases hn : s.node with
    | expression e =>
      have hstored : e.stored = e := by
        have hexpression := h.expression
        rw [Statement.expression, hn] at hexpression
        exact hexpression.stored
      have hreloads := Node.Reloads.expression e
      rwa [hstored] at hreloads
    | declaration left right =>
      have hstored : right.stored = right := by
        have hexpression := h.expression
        rw [Statement.expression, hn] at hexpression
        exact hexpression.stored
      have hleft : left.WellRead := h.identifier left (by rw [Statement.identifier?, hn]; rfl)
      have hreloads := Node.Reloads.declaration right hleft.restored
      rwa [hstored] at hreloads
  have houtcome : s.outcome.stored = s.outcome := by
    unfold Outcome.stored
    rw [Value.stored_of_data h.result.data]
  refine ⟨s.node, hnode, ?_⟩
  rw [houtcome]
  exact hline

/-- **A value that was restored comes back**: a failed mark from its record, and any other value as
it is. -/
theorem restored_of_restoreFailed {v w : Value} (hv : v.Denotable) (h : restoreFailed v = .ok w) :
    w.Throughout Value.Formed ∧ w.Throughout Value.Short ∧ restoreFailed w.stored = .ok w := by
  unfold restoreFailed at h
  split at h
  · obtain ⟨fields, -, h⟩ := Checked.ok_of_andThen h
    obtain ⟨f, error, hf, -, rfl⟩ := Checked.ok_of_seq h
    obtain ⟨kind, -, rfl⟩ := Checked.ok_of_map hf
    exact ⟨Value.throughout_leaf trivial trivial, Value.throughout_leaf trivial trivial, rfl⟩
  · rename_i hrecord
    cases h
    refine ⟨hv.formed, hv.short, ?_⟩
    rw [Value.stored_of_data hv.data]
    exact if_neg hrecord

section Reading

variable {v : Value}

theorem Value.Denotable.field {fields : Table Value} (h : Value.Denotable (.table fields))
    {name : String} (hget : fields.get? name = some v) : v.Denotable :=
  (Value.denotable_table.1 h).2 _ (Table.mem_of_get? hget)

theorem Outcome.result_denotable {o : Outcome} (hv : v.Denotable) (h : Outcome.ofValue v = .ok o) :
    o.result.Denotable := by
  obtain ⟨fields, hfields, h⟩ := Checked.ok_of_andThen h
  cases Shape.ok_of_record hfields
  obtain ⟨f, error, hf, -, rfl⟩ := Checked.ok_of_seq h
  obtain ⟨result, hresult, rfl⟩ := Checked.ok_of_map hf
  rcases Shape.ok_of_optionalField hresult with ⟨-, rfl⟩ | ⟨w, hget, hw⟩
  · exact Value.denotable_leaf trivial trivial trivial trivial
  · cases hw
    exact hv.field hget

theorem Identifier.wellRead {i : Identifier} (hv : v.Denotable) (h : Identifier.ofValue v = .ok i) :
    i.WellRead ∧ i.value.Throughout Value.Short := by
  obtain ⟨fields, hfields, h⟩ := Checked.ok_of_andThen h
  cases Shape.ok_of_record hfields
  obtain ⟨f, bound, hf, -, rfl⟩ := Checked.ok_of_seq h
  obtain ⟨g, value, hg, hvalue, rfl⟩ := Checked.ok_of_seq hf
  obtain ⟨name, -, rfl⟩ := Checked.ok_of_map hg
  rcases Shape.ok_of_optionalField hvalue with ⟨-, rfl⟩ | ⟨w, hget, hw⟩
  · exact ⟨⟨Value.throughout_leaf trivial trivial, rfl⟩, Value.throughout_leaf trivial trivial⟩
  · obtain ⟨hformed, hshort, hrestored⟩ := restored_of_restoreFailed (hv.field hget) hw
    exact ⟨⟨hformed, hrestored⟩, hshort⟩

theorem Expression.wellRead {e : Expression} (hv : v.Denotable) (h : Expression.ofValue v = .ok e) :
    e.WellRead ∧ ∀ p ∈ e.params, p.2.Throughout Value.Short := by
  obtain ⟨fields, hfields, h⟩ := Checked.ok_of_andThen h
  cases Shape.ok_of_record hfields
  obtain ⟨found, hfound, hnames⟩ := Checked.ok_of_andThen h
  obtain ⟨f₁, holes, h₁, -, rfl⟩ := Checked.ok_of_seq hfound
  obtain ⟨f₂, aliases, h₂, -, rfl⟩ := Checked.ok_of_seq h₁
  obtain ⟨f₃, refs, h₃, -, rfl⟩ := Checked.ok_of_seq h₂
  obtain ⟨f₄, params, h₄, hparams, rfl⟩ := Checked.ok_of_seq h₃
  obtain ⟨f₅, entity, h₅, -, rfl⟩ := Checked.ok_of_seq h₄
  obtain ⟨f₆, action, h₆, -, rfl⟩ := Checked.ok_of_seq h₅
  obtain ⟨kind, -, rfl⟩ := Checked.ok_of_map h₆
  unfold Expression.checkNames at hnames
  split at hnames
  · rename_i hclash
    cases hnames
    have hdenotable : ∀ p ∈ params, p.2.Denotable := by
      intro p hp
      rcases Shape.ok_of_optionalField hparams with ⟨-, rfl⟩ | ⟨w, hget, hw⟩
      · cases hp
      · obtain ⟨es, rfl, hes⟩ := Shape.ok_of_table hw
        rw [Shape.entries_any] at hes
        cases hes
        exact (Value.denotable_table.1 (hv.field hget)).2 p hp
    exact ⟨⟨hclash, fun p hp => (hdenotable p hp).toWellFormed⟩,
      fun p hp => (hdenotable p hp).short⟩
  · cases hnames

theorem Node.wellRead {n : Node} (hv : v.Denotable) (h : Node.ofValue v = .ok n) :
    (n.body.WellRead ∧ ∀ p ∈ n.body.params, p.2.Throughout Value.Short) ∧
      ∀ i ∈ n.identifier?, i.WellRead ∧ i.value.Throughout Value.Short := by
  unfold Node.ofValue at h
  split at h
  · -- by the kind: none, a declaration, an expression, or one that is not known
    split at h
    · cases h
    · obtain ⟨fields, hfields, hbody⟩ := Checked.ok_of_andThen (Checked.within_eq_ok_iff.1 h)
      cases Shape.ok_of_record hfields
      obtain ⟨f, right, hf, hright, rfl⟩ := Checked.ok_of_seq hbody
      obtain ⟨g, left, hg, hleft, rfl⟩ := Checked.ok_of_seq hf
      obtain ⟨kind, -, rfl⟩ := Checked.ok_of_map hg
      refine ⟨?_, fun i hi => ?_⟩
      · rcases Shape.ok_of_optionalField hright with ⟨-, rfl⟩ | ⟨w, hget, hw⟩
        · exact ⟨⟨rfl, nofun⟩, nofun⟩
        · exact Expression.wellRead (hv.field hget) hw
      · cases hi
        rcases Shape.ok_of_optionalField hleft with ⟨-, rfl⟩ | ⟨w, hget, hw⟩
        · exact ⟨⟨Value.throughout_leaf trivial trivial, rfl⟩,
            Value.throughout_leaf trivial trivial⟩
        · exact Identifier.wellRead (hv.field hget) hw
    · obtain ⟨e, he, rfl⟩ := Checked.ok_of_map (Checked.within_eq_ok_iff.1 h)
      exact ⟨Expression.wellRead hv he, nofun⟩
    · cases h
  · cases h

theorem Statement.withLine_of_line {s : Statement} (h : s.line ≠ "") : s.withLine = .ok s :=
  if_neg h

/-- A line changes nothing else about a statement, and is given only once. -/
theorem Statement.withLine_eq_ok {s u : Statement} (h : s.withLine = .ok u) :
    u = { s with line := u.line } ∧ u.withLine = .ok u := by
  by_cases hline : s.line = ""
  · have hmap : (fun line => { s with line }) <$> s.node.text = .ok u := by
      rw [← h, Statement.withLine, if_pos hline]
    obtain ⟨text, htext, rfl⟩ := ok_of_map hmap
    refine ⟨rfl, ?_⟩
    by_cases hempty : text = ""
    · rw [Statement.withLine, if_pos hempty, htext]
      rfl
    · exact Statement.withLine_of_line hempty
  · rw [Statement.withLine_of_line hline] at h
    cases h
    exact ⟨rfl, Statement.withLine_of_line hline⟩

theorem Statement.WellRead.withLine {s u : Statement} (h : s.WellRead)
    (hline : s.withLine = .ok u) : u.WellRead := by
  rw [(Statement.withLine_eq_ok hline).1]
  exact ⟨h.expression, h.identifier, h.result⟩

/-- **What is read is well read** and short, and has its line. -/
theorem Statement.wellRead {s : Statement} (hv : v.Denotable) (h : Statement.ofValue v = .ok s) :
    s.WellRead ∧ s.toValue.Throughout Value.Short ∧ s.withLine = .ok s := by
  obtain ⟨fields, hfields, h⟩ := Checked.ok_of_andThen h
  cases Shape.ok_of_record hfields
  obtain ⟨found, hfound, hline⟩ := Checked.ok_of_andThen h
  have hlined := Statement.checkLine_eq_ok_iff.1 hline
  obtain ⟨f, outcome, hf, houtcome, rfl⟩ := Checked.ok_of_seq hfound
  obtain ⟨g, line, hg, -, rfl⟩ := Checked.ok_of_seq hf
  obtain ⟨node, hnode, rfl⟩ := Checked.ok_of_map hg
  obtain ⟨w, hget, hw⟩ := Shape.ok_of_requiredField hnode
  obtain ⟨⟨hexpression, hparams⟩, hidentifier⟩ := Node.wellRead (hv.field hget) hw
  have hresult : outcome.result.Denotable := by
    rcases Shape.ok_of_optionalField houtcome with ⟨-, rfl⟩ | ⟨w, hget, hw⟩
    · exact Value.denotable_leaf trivial trivial trivial trivial
    · exact Outcome.result_denotable (hv.field hget) hw
  have hwell : Statement.WellRead ⟨node, line, outcome⟩ :=
    ⟨hexpression, fun i hi => (hidentifier i hi).1, hresult.toWellFormed⟩
  refine ⟨hwell.withLine hlined, ?_, (Statement.withLine_eq_ok hlined).2⟩
  rw [Statement.short_iff, (Statement.withLine_eq_ok hlined).1]
  exact ⟨hparams, fun i hi => (hidentifier i hi).2, hresult.short⟩

theorem wellRead_of_items {ss : List Statement} (hv : v.Denotable)
    (h : Shape.items Statement.ofValue v = .ok ss) :
    ∀ s ∈ ss, s.WellRead ∧ s.toValue.Throughout Value.Short ∧ s.withLine = .ok s := by
  obtain ⟨vs, rfl, hitems⟩ := Shape.ok_of_items h
  have hdenotable := Value.denotable_list.1 hv
  clear h hv
  induction hitems with
  | nil => exact nofun
  | cons hs hrest ih =>
    obtain ⟨hfirst, hmore⟩ := List.forall_mem_cons.1 hdenotable
    exact List.forall_mem_cons.2 ⟨Statement.wellRead hfirst hs, ih hmore⟩

end Reading

/-! ## What is read is well formed, and can be shown on a line -/

theorem Expression.WellRead.formed {e : Expression} (h : e.WellRead) :
    e.toValue.Throughout Value.Formed := by
  have hnames := (Expression.clash?_eq_none_iff e).1 h.clash
  obtain ⟨⟨hparams, hrefs, haliases, hholes⟩, -⟩ := (Expression.names_nodup_iff e).1 hnames
  have hvalues : (Value.table e.params).Throughout Value.Formed :=
    Value.throughout_table.2 ⟨hparams, fun p hp => (h.params p hp).formed⟩
  exact (Expression.throughout_iff records_formed e).2 ⟨formed_text _, formed_text _, hvalues,
    formed_textTable hrefs, formed_textTable haliases, formed_textTable hholes⟩

theorem Statement.WellRead.formed {s : Statement} (h : s.WellRead) :
    s.toValue.Throughout Value.Formed := by
  refine (Statement.throughout_iff records_formed s).2 ⟨⟨h.expression.formed, fun i hi => ?_⟩,
    formed_text _, (Outcome.throughout_iff records_formed _).2 ⟨h.result.formed, formed_text _⟩⟩
  exact (Identifier.throughout_iff records_formed i).2 ⟨formed_text _, (h.identifier i hi).formed⟩

/-- A literal value is nested in the record of its statement. -/
theorem Statement.depth_params {s : Statement} {p : String × Value}
    (hp : p ∈ s.expression.params) : p.2.depth < s.toValue.depth := by
  have hparams : p.2.depth < s.expression.toValue.depth :=
    (Value.depth_entry hp).trans
      (Value.depth_entry (e := ("params", .table s.expression.params)) (by simp))
  have hnode : s.expression.toValue.depth ≤ s.node.toValue.depth := by
    unfold Statement.expression
    cases s.node with
    | expression e => exact Nat.le_refl _
    | declaration left right =>
      exact Nat.le_of_lt (Value.depth_entry (e := ("right", right.toValue)) (by simp))
  have hstatement : s.node.toValue.depth < s.toValue.depth :=
    Value.depth_entry (e := ("node", s.node.toValue)) (by simp)
  omega

theorem depth_statement {ss : List Statement} {s : Statement} (hs : s ∈ ss) :
    s.toValue.depth < (statementsValue ss).depth :=
  Value.depth_item (List.mem_map_of_mem hs)

/-- An expression has a canonical text if its literal values have texts. -/
theorem Expression.exists_text {e : Expression} (h : ∀ p ∈ e.params, p.2.Denotable)
    (hdepth : ∀ p ∈ e.params, p.2.depth ≤ Value.depthLimit) : ∃ text, e.text = .ok text := by
  have hliteral : ∀ p ∈ e.params.sortedEntries, ∃ text, Expression.literalText p = .ok text := by
    intro p hp
    have hmem : p ∈ e.params := (e.params.sortedEntries_perm).mem_iff.1 hp
    obtain ⟨text, htext⟩ := (h p hmem).exists_lineText (hdepth p hmem)
    rw [Expression.literalText, htext]
    exact ⟨_, rfl⟩
  obtain ⟨texts, htexts⟩ := exists_mapM_ok hliteral
  rw [Expression.text, Expression.parts, htexts]
  exact ⟨_, rfl⟩

/-- **A statement has a line** if its literal values have texts. -/
theorem Statement.exists_withLine {s : Statement} (h : ∀ p ∈ s.expression.params, p.2.Denotable)
    (hdepth : ∀ p ∈ s.expression.params, p.2.depth ≤ Value.depthLimit) :
    ∃ u, s.withLine = .ok u := by
  obtain ⟨text, htext⟩ := Expression.exists_text h hdepth
  unfold Statement.withLine
  split
  · have hnode : ∃ line, s.node.text = .ok line := by
      unfold Statement.expression at htext
      cases hn : s.node with
      | expression e =>
        rw [hn] at htext
        exact ⟨text, htext⟩
      | declaration left right =>
        rw [hn] at htext
        refine ⟨left.name ++ " = " ++ text, ?_⟩
        rw [Node.text, show right.text = .ok text from htext]
        rfl
    obtain ⟨line, hline⟩ := hnode
    rw [hline]
    exact ⟨_, rfl⟩
  · exact ⟨s, rfl⟩

end Provision
