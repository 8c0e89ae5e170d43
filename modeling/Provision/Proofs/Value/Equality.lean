import Provision.Proofs.Value.Nested
import Provision.Report.Basic

/-!
# Equality of values and of what is made of them

`Value.equals` compares two values part by part, and finds them equal exactly if they are one and
the same (`Value.equals_iff`), unlike `Value.same`, for which both zeros are equal. So equality is
decidable for values, and for the templates and reports that hold them.
-/

namespace Provision

namespace Value

/-- Whether two texts, or the faults in their place, are the same. -/
def equalTexts : Except TextFault String → Except TextFault String → Bool
  | .ok s, .ok t => s == t
  | .error f, .error g => f = g
  | _, _ => false

theorem equalTexts_iff (s t : Except TextFault String) : equalTexts s t = true ↔ s = t := by
  cases s <;> cases t <;> simp [equalTexts]

mutual

/-- Whether two values are one and the same, with the keys of a table in their order. -/
def equals : Value → Value → Bool
  | .null, .null => true
  | .bool a, .bool b => a == b
  | .int m, .int n => m == n
  | .double x, .double y => x == y
  | .text s, .text t => s == t
  | .list vs, .list ws => equalItems vs ws
  | .table vs, .table ws => equalEntries vs ws
  | .failed s, .failed t => s == t
  | .handle s q (.ok v), .handle t r (.ok w) => equalTexts s t && equalTexts q r && equals v w
  | .handle s q (.error f), .handle t r (.error g) =>
    equalTexts s t && equalTexts q r && decide (f = g)
  | _, _ => false

/-- `equals`, item by item. -/
def equalItems : List Value → List Value → Bool
  | [], [] => true
  | v :: vs, w :: ws => equals v w && equalItems vs ws
  | _, _ => false

/-- `equals`, entry by entry. -/
def equalEntries : List (String × Value) → List (String × Value) → Bool
  | [], [] => true
  | (k, v) :: vs, (l, w) :: ws => k == l && equals v w && equalEntries vs ws
  | _, _ => false

end

theorem equalItems_iff {vs : List Value} (h : ∀ v ∈ vs, ∀ w, equals v w = true ↔ v = w)
    (ws : List Value) : equalItems vs ws = true ↔ vs = ws := by
  induction vs generalizing ws with
  | nil => cases ws <;> simp [equalItems]
  | cons v vs ih =>
    obtain ⟨hv, hvs⟩ := List.forall_mem_cons.1 h
    cases ws with
    | nil => simp [equalItems]
    | cons w ws => simp [equalItems, hv, ih hvs]

theorem equalEntries_iff {vs : List (String × Value)}
    (h : ∀ e ∈ vs, ∀ w, equals e.2 w = true ↔ e.2 = w) (ws : List (String × Value)) :
    equalEntries vs ws = true ↔ vs = ws := by
  induction vs generalizing ws with
  | nil => cases ws <;> simp [equalEntries]
  | cons e vs ih =>
    obtain ⟨hv, hvs⟩ := List.forall_mem_cons.1 h
    cases ws with
    | nil => simp [equalEntries]
    | cons f ws => simp [equalEntries, hv, ih hvs, Prod.ext_iff]

theorem equals_iff (v : Value) : ∀ w, equals v w = true ↔ v = w := by
  induction v using nestedInduction with
  | list items ih => intro w; cases w <;> simp [equals, equalItems_iff ih]
  | table entries ih => intro w; cases w <;> simp [equals, equalEntries_iff ih]
  | handle shown quoted stored ih =>
    intro w
    cases w with
    | handle shown' quoted' stored' =>
      rcases stored with f | v <;> rcases stored' with g | u
      · simp [equals, equalTexts_iff, and_assoc]
      · simp [equals]
      · simp [equals]
      · simp [equals, equalTexts_iff, ih v rfl, and_assoc]
    | _ => cases stored <;> simp [equals]
  | _ => intro w; cases w <;> simp [equals]

instance : DecidableEq Value := fun v w => decidable_of_iff _ (equals_iff v w)

end Value

deriving instance DecidableEq for Outcome, Identifier, Expression, Node, Statement, Template, Report

end Provision
