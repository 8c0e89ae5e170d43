import Provision.Proofs.Template.Agreement
import Provision.Proofs.Text.Order

/-!
# Filling in stages

Holes that have no fill stay, and a later fill can be for them. What is reported as missing is what
is left, and what is left is what had no fill; so several fills amount to one.

* `Template.waitingParams_eq`: the parameters waiting for each hole are the open holes, grouped.
* `Template.agrees_fill_fill`: filling twice is filling once, earlier values counting.
* `fills_report_what_is_left`: **the holes reported are those left and those without a fill**,
  strict or not, and fills may be given in stages.
-/

namespace Provision

/-! ## Holes by name -/

namespace Template

/-- Open holes grouped by their names, in the order of first occurrence: for each name the waiting
parameters, in the order of the template. -/
def byHole (holes : List OpenHole) : Table (List String) :=
  (Text.distinct (holes.map OpenHole.hole)).map fun name =>
    (name, (holes.filter fun o => o.hole = name).map OpenHole.param)

theorem keys_byHole (holes : List OpenHole) :
    (byHole holes).keys = Text.distinct (holes.map OpenHole.hole) := by
  unfold byHole Table.keys
  rw [List.map_map]
  exact List.map_id _

/-- The group of a name, empty if there is none. -/
theorem getD_byHole (holes : List OpenHole) (name : String) :
    ((byHole holes).get? name).getD [] =
      (holes.filter fun o => o.hole = name).map OpenHole.param := by
  unfold byHole
  rw [Table.get?_map_names]
  by_cases h : name ∈ Text.distinct (holes.map OpenHole.hole)
  · rw [if_pos h, Option.getD_some]
  · have hnone : (holes.filter fun o => o.hole = name) = [] := by
      refine List.filter_eq_nil_iff.2 fun o ho heq => h (Text.mem_distinct.2 ?_)
      rw [← of_decide_eq_true heq]
      exact List.mem_map_of_mem ho
    rw [if_neg h, hnone]
    rfl

/-- **One more hole** waits with those of its name, or begins a new group. -/
theorem byHole_append (holes : List OpenHole) (o : OpenHole) :
    byHole (holes ++ [o]) = addWaiting (byHole holes) o.param o.hole := by
  have hgroup : ∀ name, ((holes ++ [o]).filter fun x => x.hole = name).map OpenHole.param =
      if name = o.hole then
        (holes.filter fun x => x.hole = o.hole).map OpenHole.param ++ [o.param]
      else (holes.filter fun x => x.hole = name).map OpenHole.param := by
    intro name
    by_cases hname : name = o.hole
    · simp [hname]
    · simp [hname, Ne.symm hname]
  unfold addWaiting
  rw [getD_byHole]
  unfold byHole
  rw [List.map_append, List.map_singleton, Text.distinct_append]
  by_cases hmem : o.hole ∈ Text.distinct (holes.map OpenHole.hole)
  · rw [if_pos (List.contains_iff_mem.2 hmem), Table.set_map_names (Text.nodup_distinct _) hmem]
    exact List.map_congr_left fun name _ => by rw [hgroup name]
  · have hkeys := hmem
    rw [← keys_byHole, byHole] at hkeys
    rw [if_neg (fun h => hmem (List.contains_iff_mem.1 h)), Table.set_of_not_mem hkeys,
      List.map_append, List.map_singleton, hgroup o.hole, if_pos rfl]
    congr 1
    refine List.map_congr_left fun name hname => ?_
    rw [hgroup name, if_neg]
    rintro rfl
    exact hmem hname

/-- **The parameters waiting for each hole** are the open holes, grouped by name. -/
theorem waitingParams_eq (t : Template) : t.waitingParams = byHole t.openHoles := by
  have hfold : ∀ holes : List OpenHole,
      holes.foldl (fun w o => addWaiting w o.param o.hole) [] = byHole holes := by
    intro holes
    induction holes using List.reverseRecOn with
    | nil => rfl
    | append_singleton holes o ih => rw [List.foldl_append, ih, byHole_append]; rfl
  -- the two loops go through the holes in the order of the template
  have hloops : ∀ (ss : List Statement) (n : ℕ) (w : Table (List String)),
      (ss.map Statement.expression).foldl
        (fun w e => e.holes.foldl (fun w p => addWaiting w p.1 p.2) w) w =
      (openHolesFrom n ss).foldl (fun w o => addWaiting w o.param o.hole) w := by
    intro ss
    induction ss with
    | nil => exact fun _ _ => rfl
    | cons s ss ih =>
      intro n w
      rw [List.map_cons, List.foldl_cons, ih (n + 1), openHolesFrom_cons, List.foldl_append,
        numberedHoles, List.foldl_map]
  rw [← hfold]
  exact hloops t.statements 0 []

/-! ## Two fills -/

/-- Two fills of the same holes, the second of those that the first has left, set what one fill
does in which the first values count. -/
theorem agrees_fillings {holes : Table String} (h : holes.Distinct) {first : Table Value}
    (hfirst : first.Distinct) (second : Table Value) :
    (Table.ofEntries (fillings first holes ++
      fillings second (holes.filter fun x => !first.has x.2))).Agrees
        (Table.ofEntries (fillings (second.update first) holes)) := by
  set rest : String → Option Value := fun hole =>
    if first.has hole then none else second.get? hole with hrest
  have hlater : fillings second (holes.filter fun x => !first.has x.2) =
      holes.filterMap fun x => (rest x.2).map fun v => (x.1, v) := by
    unfold fillings
    rw [List.filterMap_filter, hrest]
    refine List.filterMap_congr fun x _ => ?_
    cases hhas : first.has x.2 with
    | true => simp [hhas]
    | false => simp [hhas]
  have hfillings : ∀ (fills : Table Value) (param : String),
      (Table.ofEntries (fillings fills holes)).get? param =
        (holes.get? param).bind fills.get? := by
    intro fills param
    have hdistinct : Table.Distinct (fillings fills holes) := h.filterMap fills.get?
    rw [Table.ofEntries_of_distinct hdistinct]
    exact Table.get?_filterMap h fills.get? param
  intro param
  rw [Table.get?_ofEntries_append, hlater, Table.ofEntries_of_distinct (h.filterMap rest),
    Table.get?_filterMap h rest, hfillings, hfillings]
  cases holes.get? param with
  | none => rfl
  | some hole =>
    rw [Option.bind_some, Option.bind_some, Option.bind_some, Table.get?_update,
      Table.ofEntries_of_distinct hfirst]
    cases hvalue : first.get? hole with
    | none => simp [hrest, Table.has, hvalue]
    | some v => simp [hrest, Table.has, hvalue]

variable {t : Template} {first : Table Value}

/-- **Filling twice is filling once**, earlier values counting. -/
theorem agrees_fill_fill (hv : t.Valid) (hfirst : first.Distinct) (second : Table Value) :
    ((t.fill first).fill second).Agrees (t.fill (second.update first)) := by
  rw [fill_eq, fill_eq, fill_eq, mapExpressions_mapExpressions]
  refine agrees_mapExpressions fun e he => ?_
  have hholes := Expression.distinct_holes (hv e he)
  rw [Function.comp_apply, Expression.holes_fill (hv e he), ← Expression.setAll_append]
  exact Expression.setAll_agrees (agrees_fillings hholes hfirst second) e

/-- What is missing after two fills. -/
theorem unfilled_fill (hv : t.Valid) (first second : Table Value) :
    (t.fill first).unfilled second = t.unfilled (second.update first) := by
  rw [unfilled_eq, openHoles_fill hv, unfilled_eq, unfilled_eq, List.filter_filter]
  refine List.filter_congr fun o _ => ?_
  rw [Table.has_update, Bool.not_or, Bool.and_comm]

/-- A strict fill fails if and only if some hole has no fill. -/
theorem resolve_strict (fills : Table Value) (t : Template) :
    (t.resolve true fills).2 =
      if t.unfilled fills = [] then .ok [] else .error ⟨t.unfilled fills⟩ := by
  rw [resolve_eq]
  by_cases hnone : t.unfilled fills = []
  · rw [if_pos hnone, hnone]
    rfl
  · rw [if_neg hnone]
    simp [hnone]

end Template

open Template

/-- **The holes reported as missing are those left**, strict or not: a strict fill leaves the same
template, and fails if and only if there are any. They are the holes that had no fill, and grouped
by name they are what waits for each hole. **Fills may be given in stages**: two of them leave and
report what one does in which the first values count. -/
theorem fills_report_what_is_left {t : Template} (hv : t.Valid) :
    (∀ fills : Table Value,
      let left := t.openHoles.filter fun o => !fills.has o.hole
      (t.resolve false fills).2 = .ok left ∧
      (t.resolve true fills).2 = (if left = [] then .ok [] else .error ⟨left⟩) ∧
      (t.resolve true fills).1 = (t.resolve false fills).1 ∧
      (t.resolve false fills).1.openHoles = left ∧
      (t.resolve false fills).1.waitingParams = byHole left) ∧
    ∀ first second : Table Value, first.Distinct → ∀ strict strict' : Bool,
      ((t.resolve strict first).1.resolve strict' second).1.Agrees
        (t.resolve strict' (second.update first)).1 ∧
      ((t.resolve strict first).1.resolve strict' second).2 =
        (t.resolve strict' (second.update first)).2 := by
  constructor
  · intro fills left
    have hleft : t.unfilled fills = left := unfilled_eq fills t
    have hopen : (t.fill fills).openHoles = left := (openHoles_fill hv fills).trans hleft
    refine ⟨congrArg Except.ok hleft, ?_, rfl, hopen, ?_⟩
    · rw [resolve_strict, hleft]
    · rw [waitingParams_eq]
      exact congrArg byHole hopen
  · intro first second hfirst strict strict'
    have hleft : (t.fill first).unfilled second = t.unfilled (second.update first) :=
      unfilled_fill hv first second
    refine ⟨agrees_fill_fill hv hfirst second, ?_⟩
    rw [resolve_eq, resolve_eq, resolve_eq]
    simp only [hleft]

/-- A fill for one hole of four. -/
def nameFill : Table Value := [("name", .text "web")]

/-- A fill for the others, and one that comes too late. -/
def lateFills : Table Value := [("size", .int 4), ("name", .text "db")]

theorem fills_report_what_is_left_twinDisks : twinDisks.Valid ∧ nameFill.Distinct ∧
    (twinDisks.resolve true nameFill).2 =
      .error ⟨[⟨0, "size", "size"⟩, ⟨0, "disk", "size"⟩, ⟨1, "size", "size"⟩]⟩ ∧
    (twinDisks.resolve true nameFill).1.waitingParams = [("size", ["size", "disk", "size"])] ∧
    ((twinDisks.resolve true nameFill).1.resolve true lateFills).1.Agrees
      (twinDisks.resolve true (lateFills.update nameFill)).1 ∧
    ((twinDisks.resolve true nameFill).1.resolve true lateFills).2 = .ok [] ∧
    lateFills.update nameFill = [("size", .int 4), ("name", .text "web")] := by
  have hv : ∀ e ∈ twinDisks.expressions, e.clash? = none := by decide
  have hdistinct : nameFill.Distinct := List.nodup_singleton _
  obtain ⟨hreport, hstages⟩ := fills_report_what_is_left hv
  obtain ⟨-, hstrict, hsame, -, hwaiting⟩ := hreport nameFill
  obtain ⟨hagrees, hrecords⟩ := hstages nameFill lateFills hdistinct true true
  refine ⟨hv, hdistinct, ?_, ?_, hagrees, ?_, rfl⟩
  · rw [hstrict]
    rfl
  · rw [hsame, hwaiting]
    rfl
  · rw [hrecords]
    rfl

end Provision
