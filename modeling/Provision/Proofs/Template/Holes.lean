import Mathlib.Data.List.Nodup
import Provision.Proofs.Template.Apart
import Provision.Proofs.Template.Literals

/-!
# Holes that are left

* `Template.without_fillings`: the entries of a table of holes or aliases that have no fill stay.
* `Template.openHoles_fill`: after holes were filled, those are left that had no fill.
* `Template.openHolesFrom_cons`, `Template.names_openHoles`: the holes and their names, statement by
  statement.
-/

namespace Provision

/-- **Of the entries of a table, those are left that have no fill.** -/
theorem Template.without_fillings {table : Table String} (h : table.Distinct)
    (fills : Table Value) :
    table.without ((fillings fills table).map Prod.fst) =
      List.filter (fun x => !fills.has x.2) table := by
  unfold Table.without
  refine List.filter_congr fun x hx => ?_
  -- no other entry is for the same parameter
  have hfilled : x.1 ∈ (fillings fills table).map Prod.fst ↔ fills.has x.2 = true := by
    unfold Table.has
    rw [Option.isSome_iff_exists]
    constructor
    · intro hmem
      obtain ⟨y, hy, hname⟩ := List.mem_map.1 hmem
      obtain ⟨z, hz, hfill⟩ := List.mem_filterMap.1 hy
      obtain ⟨v, hvalue, rfl⟩ := Option.map_eq_some_iff.1 hfill
      obtain rfl : z = x := List.inj_on_of_nodup_map h hz hx hname
      exact ⟨v, hvalue⟩
    · rintro ⟨v, hvalue⟩
      obtain ⟨param, hole⟩ := x
      have hfill : (fills.get? hole).map (fun v => (param, v)) = some (param, v) := by
        rw [show fills.get? hole = some v from hvalue]
        rfl
      exact List.mem_map.2 ⟨(param, v), List.mem_filterMap.2 ⟨(param, hole), hx, hfill⟩, rfl⟩
  rw [Bool.eq_iff_iff, Bool.not_eq_true', Bool.not_eq_true', ← Bool.not_eq_true,
    ← Bool.not_eq_true, List.contains_iff_mem, hfilled]

namespace Expression

theorem holes_fill {e : Expression} (hv : e.clash? = none) (fills : Table Value) :
    (e.setAll (Template.fillings fills e.holes)).holes =
      List.filter (fun x => !fills.has x.2) e.holes := by
  rw [setAll_holes]
  exact Template.without_fillings (distinct_holes hv) fills

end Expression

namespace Template

theorem clash?_of_valid {t : Template} (hv : t.Valid) {s : Statement} (hs : s ∈ t.statements) :
    s.expression.clash? = none :=
  hv _ (List.mem_map_of_mem hs)

/-- **After holes were filled, those are left that had no fill.** -/
theorem openHoles_fill {t : Template} (hv : t.Valid) (fills : Table Value) :
    (t.fill fills).openHoles = t.unfilled fills := by
  rw [unfilled_eq, fill_eq]
  unfold openHoles mapExpressions
  rw [List.zipIdx_map, List.flatMap_map, List.filter_flatMap]
  refine List.flatMap_congr fun x hx => ?_
  have hmem : x.1 ∈ t.statements := List.fst_mem_of_mem_zipIdx hx
  simp only [Prod.map_fst, Prod.map_snd, Statement.expression_mapExpression,
    Expression.holes_fill (clash?_of_valid hv hmem), List.filter_map]
  rfl

/-! ## Holes statement by statement -/

/-- The holes of the expression of statement `n`. -/
def numberedHoles (n : ℕ) (e : Expression) : List OpenHole :=
  e.holes.map fun x => ⟨n, x.1, x.2⟩

theorem statement_of_mem_numberedHoles {n : ℕ} {e : Expression} {o : OpenHole}
    (h : o ∈ numberedHoles n e) : o.statement = n := by
  obtain ⟨x, -, rfl⟩ := List.mem_map.1 h
  rfl

/-- The holes of statements that are numbered from `n`. -/
def openHolesFrom (n : ℕ) (ss : List Statement) : List OpenHole :=
  (ss.zipIdx n).flatMap fun x => numberedHoles x.2 x.1.expression

theorem openHolesFrom_cons (n : ℕ) (s : Statement) (ss : List Statement) :
    openHolesFrom n (s :: ss) =
      numberedHoles n s.expression ++ openHolesFrom (n + 1) ss := by
  rw [openHolesFrom, List.zipIdx_cons, List.flatMap_cons]
  rfl

theorem le_of_mem_openHolesFrom {n : ℕ} {ss : List Statement} {o : OpenHole}
    (h : o ∈ openHolesFrom n ss) : n ≤ o.statement := by
  obtain ⟨x, hx, ho⟩ := List.mem_flatMap.1 h
  rw [statement_of_mem_numberedHoles ho]
  exact List.le_snd_of_mem_zipIdx hx

/-- The names of the holes, in the order of the template. -/
theorem names_openHoles (t : Template) : t.openHoles.map OpenHole.hole =
    t.statements.flatMap fun s => s.expression.holes.map Prod.snd := by
  have hfrom : ∀ (ss : List Statement) (n : ℕ), (openHolesFrom n ss).map OpenHole.hole =
      ss.flatMap fun s => s.expression.holes.map Prod.snd := by
    intro ss
    induction ss with
    | nil => intro n; rfl
    | cons s ss ih =>
      intro n
      rw [openHolesFrom_cons, List.flatMap_cons, List.map_append, ih, numberedHoles, List.map_map]
      rfl
  exact hfrom t.statements 0

/-- A template of which no hole is left has none. -/
theorem holes_of_openHoles {t : Template} (h : t.openHoles = []) :
    ∀ s ∈ t.statements, s.expression.holes = [] := by
  intro s hs
  have hnames := t.names_openHoles
  rw [h, List.map_nil, eq_comm, List.flatMap_eq_nil_iff] at hnames
  exact List.map_eq_nil_iff.1 (hnames s hs)

end Template

end Provision
