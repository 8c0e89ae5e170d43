import Mathlib.Data.List.Basic
import Provision.Display.Summary
import Provision.Proofs.Value.Shown

/-!
# The last line of a report

Whether a run went well is told twice, by its exit code and by the last line of its summary, and
each counts the failed statements in its own way.

* `Report.exists_summary`: there is a summary if all values that it shows have a text.
* `Report.hasErrors_eq_false_iff`, `Report.failedCount_eq_zero_iff`: both say that no statement
  has an error.
* `Report.praises_lastLine_iff`: **the last line praises a run** iff it was not aborted and no
  statement has an error.
-/

namespace Provision

open Display

/-- The text of a piece starts with another text. -/
def Display.Piece.StartsWith (start : String) (p : Piece) : Prop :=
  start.toList <+: p.text.toList

instance (start : String) (p : Piece) : Decidable (p.StartsWith start) :=
  inferInstanceAs (Decidable (start.toList <+: p.text.toList))

/-- A piece of text that says that all went well. -/
def Display.Piece.Praises (p : Piece) : Prop :=
  p.StartsWith "Run complete!" ∨ p.StartsWith "No statements to run."

theorem Display.toList_shown_append (a b : String) :
    (shown (a ++ b)).toList = (shown a).toList ++ (shown b).toList := by
  unfold shown
  rw [String.toList_append, List.filter_append, String.toList_ofList, String.toList_ofList,
    String.toList_ofList]

/-- What a text starts with can be told from its first part. -/
theorem Display.startsWith_styled {start a : String} (h : start.toList <+: (shown a).toList)
    (style : Style) (b : String) : (styled style (a ++ b)).StartsWith start := by
  unfold Piece.StartsWith styled
  rw [toList_shown_append]
  exact h.trans (List.prefix_append _ _)

/-- Five letters are enough to tell the last lines apart. -/
theorem Display.not_startsWith_styled {start a : String} (ha : 5 ≤ (shown a).toList.length)
    (hstart : 5 ≤ start.toList.length) (hne : start.toList.take 5 ≠ (shown a).toList.take 5)
    (style : Style) (b : String) : ¬ (styled style (a ++ b)).StartsWith start := by
  unfold Piece.StartsWith styled
  rw [toList_shown_append]
  rintro ⟨rest, hrest⟩
  have hfive := congrArg (List.take 5) hrest
  rw [List.take_append_of_le_length hstart, List.take_append_of_le_length ha] at hfive
  exact hne hfive

/-- The value that a summary shows of a statement without an error. -/
def Statement.shownValue (s : Statement) : Value :=
  (s.identifier?.map (·.value)).getD s.outcome.result

/-- The value that a summary shows has a text. -/
def Statement.Showable (s : Statement) : Prop :=
  s.shownValue.Denotable ∧ s.shownValue.depth ≤ Value.depthLimit

theorem Statement.exists_resultLines {s : Statement} (h : s.outcome.error = "" → s.Showable) :
    ∃ pieces, s.resultLines = .ok pieces := by
  unfold resultLines
  by_cases hfailed : s.failed = true
  · rw [if_pos hfailed]
    exact ⟨_, rfl⟩
  · have herror : s.outcome.error = "" := by
      unfold failed Outcome.failed at hfailed
      simpa using hfailed
    obtain ⟨hvalue, hdepth⟩ := h herror
    obtain ⟨text, hplain⟩ := hvalue.exists_plain hdepth
    unfold shownValue at hplain
    rw [if_neg hfailed]
    cases hleft : s.identifier? with
    | some left =>
      rw [hleft] at hplain
      have hleftPlain : left.value.plain = .ok text := hplain
      simp only [hleftPlain]
      exact ⟨_, rfl⟩
    | none =>
      rw [hleft] at hplain
      have hresult : s.outcome.result.plain = .ok text := hplain
      dsimp only
      split
      · exact ⟨_, rfl⟩
      · rw [hresult]
        exact ⟨_, rfl⟩

namespace Report

variable (r : Report)

/-- **There is a summary** if all values that it shows have a text. -/
theorem exists_summary (h : ∀ s ∈ r.statements, s.outcome.error = "" → s.Showable) :
    ∃ pieces, r.summary = .ok pieces := by
  have hstatement : ∀ s ∈ r.statements, ∃ pieces, s.summary = .ok pieces := by
    intro s hs
    obtain ⟨pieces, hpieces⟩ := Statement.exists_resultLines (h s hs)
    unfold Statement.summary
    rw [hpieces]
    exact ⟨_, rfl⟩
  obtain ⟨statements, hstatements⟩ := exists_mapM_ok hstatement
  unfold summary
  rw [hstatements]
  exact ⟨_, rfl⟩

theorem hasErrors_eq_false_iff :
    r.hasErrors = false ↔ ∀ s ∈ r.statements, s.outcome.error = "" := by
  unfold hasErrors
  rw [List.any_eq_false]
  refine forall₂_congr fun s _ => ?_
  unfold Statement.failed Outcome.failed
  simp

theorem failedCount_eq_zero_iff :
    r.failedCount = 0 ↔ ∀ s ∈ r.statements, s.outcome.error = "" := by
  unfold failedCount
  rw [← hasErrors_eq_false_iff, List.countP_eq_zero, hasErrors, List.any_eq_false]

/-- The last piece of a summary tells how the run ended. -/
theorem getLast?_summary {pieces : List Piece} (h : r.summary = .ok pieces) :
    pieces.getLast? = some r.lastLine := by
  obtain ⟨statements, -, hpieces⟩ := ok_of_bind h
  cases hpieces
  rw [List.getLast?_append]
  rfl

/-- **The last line praises a run** iff it was not aborted and no statement has an error. -/
theorem praises_lastLine_iff : r.lastLine.Praises ↔
    r.aborted = "" ∧ ∀ s ∈ r.statements, s.outcome.error = "" := by
  rw [← failedCount_eq_zero_iff]
  unfold lastLine
  by_cases haborted : r.aborted = ""
  · rw [if_neg (not_not.2 haborted)]
    by_cases hempty : r.statements.isEmpty = true
    · rw [if_pos hempty]
      refine iff_of_true (Or.inr ?_) ⟨haborted, ?_⟩
      · decide +kernel
      · rw [failedCount_eq_zero_iff, List.isEmpty_iff.1 hempty]
        exact List.forall_mem_nil _
    · rw [if_neg hempty]
      by_cases hfailed : r.failedCount = 0
      · rw [if_pos hfailed, String.append_assoc]
        exact iff_of_true (Or.inl (startsWith_styled (by decide +kernel) _ _)) ⟨haborted, hfailed⟩
      · rw [if_neg hfailed]
        simp only [String.append_assoc]
        refine iff_of_false ?_ fun h => hfailed h.2
        rintro (h | h)
        · exact not_startsWith_styled (by decide +kernel) (by decide +kernel) (by decide +kernel)
            _ _ h
        · exact not_startsWith_styled (by decide +kernel) (by decide +kernel) (by decide +kernel)
            _ _ h
  · rw [if_pos haborted]
    simp only [String.append_assoc]
    refine iff_of_false ?_ fun h => haborted h.1
    rintro (h | h)
    · exact not_startsWith_styled (by decide +kernel) (by decide +kernel) (by decide +kernel) _ _ h
    · exact not_startsWith_styled (by decide +kernel) (by decide +kernel) (by decide +kernel) _ _ h

end Report

end Provision
