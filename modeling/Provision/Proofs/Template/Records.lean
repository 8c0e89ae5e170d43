import Provision.Proofs.Value.Nested
import Provision.Template.Stored

/-!
# Records, field by field

A property holds throughout the record of a statement iff it holds throughout the values and texts
that the statement is made of, provided that the names of the fields do not matter to it
(`Records`). That a value fits into a document and that it is plain are such properties.
-/

namespace Provision

open Text (IsPlain)

/-- The fields of each kind of record. -/
def recordFields : List (List String) :=
  [["result", "error"], ["name", "value", "bound"],
   ["kind", "action", "entity", "params", "refs", "aliases", "holes"], ["kind", "left", "right"],
   ["node", "line", "outcome"], ["statements"],
   ["id", "statements", "started_at", "finished_at", "aborted"]]

/-- A property that all records have, as far as the names of their fields and the words for their
kinds go. -/
structure Records (p : Value → Prop) : Prop where
  bool : ∀ b, p (.bool b)
  kind : ∀ kind ∈ ["expression", "declaration"], p (.text kind)
  list : ∀ items, p (.list items)
  record : ∀ fields : Table Value, fields.keys ∈ recordFields → p (.table fields)

theorem records_formed : Records Value.Formed where
  bool _ := trivial
  kind _ _ := trivial
  list _ := trivial
  record fields h := by
    have hnodup : ∀ keys ∈ recordFields, keys.Nodup := by decide
    exact hnodup _ h

theorem records_short : Records Value.Short where
  bool _ := trivial
  kind _ _ := trivial
  list _ := trivial
  record _ _ := trivial

theorem records_plain : Records Value.Plain where
  bool _ := trivial
  kind kind h := by
    have hfree : ∀ kind ∈ ["expression", "declaration"], Text.mark ∉ kind.toList := by decide
    exact Text.isPlain_of_mark_free (hfree kind h)
  list _ := trivial
  record fields h k hk := by
    have hfree : ∀ keys ∈ recordFields, ∀ k ∈ keys, Text.mark ∉ k.toList := by decide
    exact Text.isPlain_of_mark_free (hfree _ h k hk)

variable {p : Value → Prop}

theorem Records.throughout_record (hp : Records p) {fields : Table Value}
    (h : fields.keys ∈ recordFields) :
    (Value.table fields).Throughout p ↔ fields.Forall fun e => e.2.Throughout p :=
  Value.throughout_record (hp.record fields h)

theorem Records.throughout_kind (hp : Records p) {kind : String}
    (h : kind ∈ ["expression", "declaration"]) : (Value.text kind).Throughout p :=
  Value.throughout_leaf trivial (hp.kind kind h)

theorem Outcome.throughout_iff (hp : Records p) (o : Outcome) : o.toValue.Throughout p ↔
    o.result.Throughout p ∧ (Value.text o.error).Throughout p :=
  hp.throughout_record (by simp [recordFields, Table.keys])

theorem Identifier.throughout_iff (hp : Records p) (i : Identifier) : i.toValue.Throughout p ↔
    (Value.text i.name).Throughout p ∧ i.value.Throughout p := by
  have hbool : (Value.bool i.bound).Throughout p :=
    Value.throughout_leaf trivial (hp.bool i.bound)
  refine (hp.throughout_record (by simp [recordFields, Table.keys])).trans ?_
  exact ⟨fun h => ⟨h.1, h.2.1⟩, fun h => ⟨h.1, h.2, hbool⟩⟩

theorem Expression.throughout_iff (hp : Records p) (e : Expression) : e.toValue.Throughout p ↔
    (Value.text e.action).Throughout p ∧ (Value.text e.entity).Throughout p ∧
      (Value.table e.params).Throughout p ∧ (textTable e.refs).Throughout p ∧
      (textTable e.aliases).Throughout p ∧ (textTable e.holes).Throughout p := by
  refine (hp.throughout_record (by simp [recordFields, Table.keys])).trans ?_
  exact and_iff_right (hp.throughout_kind (by simp))

theorem Node.throughout_iff (hp : Records p) (n : Node) : n.toValue.Throughout p ↔
    n.body.toValue.Throughout p ∧ ∀ i ∈ n.identifier?, i.toValue.Throughout p := by
  cases n with
  | expression e => exact (and_iff_left nofun).symm
  | declaration left right =>
    refine (hp.throughout_record (by simp [recordFields, Table.keys])).trans ?_
    refine (and_iff_right (hp.throughout_kind (by simp))).trans ⟨fun h => ⟨h.2, ?_⟩, fun h => ?_⟩
    · rintro i ⟨⟩
      exact h.1
    · exact ⟨h.2 left rfl, h.1⟩

/-- **The record of a statement**, part by part. -/
theorem Statement.throughout_iff (hp : Records p) (s : Statement) : s.toValue.Throughout p ↔
    (s.expression.toValue.Throughout p ∧ ∀ i ∈ s.identifier?, i.toValue.Throughout p) ∧
      (Value.text s.line).Throughout p ∧ s.outcome.toValue.Throughout p := by
  refine (hp.throughout_record (by simp [recordFields, Table.keys])).trans ?_
  exact and_congr_left' (Node.throughout_iff hp s.node)

theorem throughout_statementsValue (hp : Records p) {ss : List Statement} :
    (statementsValue ss).Throughout p ↔ ∀ s ∈ ss, s.toValue.Throughout p := by
  refine Value.throughout_list.trans ((and_iff_right (hp.list _)).trans ⟨fun h s hs => ?_, ?_⟩)
  · exact h _ (List.mem_map_of_mem hs)
  · intro h v hv
    obtain ⟨s, hs, rfl⟩ := List.mem_map.1 hv
    exact h s hs

theorem Template.throughout_iff (hp : Records p) (t : Template) :
    t.toValue.Throughout p ↔ ∀ s ∈ t.statements, s.toValue.Throughout p :=
  (hp.throughout_record (by simp [recordFields, Table.keys])).trans (throughout_statementsValue hp)

/-! ## Texts -/

theorem formed_text (s : String) : (Value.text s).Throughout Value.Formed :=
  Value.throughout_leaf trivial trivial

theorem short_text (s : String) : (Value.text s).Throughout Value.Short :=
  Value.throughout_leaf trivial trivial

theorem plain_text_iff {s : String} : (Value.text s).Throughout Value.Plain ↔ IsPlain s :=
  ⟨fun h => h _ (.self _), fun h => Value.throughout_leaf trivial h⟩

theorem isJson_text {s : String} (h : IsPlain s) : Value.IsJson (.text s) :=
  ⟨Value.wellFormed_leaf trivial trivial trivial, plain_text_iff.2 h⟩

end Provision
