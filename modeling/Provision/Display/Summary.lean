import Provision.Display.Styled
import Provision.Report.Basic
import Provision.Template.Passes

/-!
# Summaries of templates and reports

* `Template.summary`: the statements of a template, and what still needs a value.
* `Report.summary`: every statement of a report with its outcome, and a last line that tells
  how the run ended. There is none if a value in it has no text.
-/

namespace Provision

open Display

/-- What still needs a value: a name, and what waits for it. -/
def waitingLines (title : String) (entries : List (String × String)) : List Piece :=
  if entries.isEmpty then []
  else styled .header ("\n" ++ title ++ ":\n") :: entries.flatMap fun (name, waiting) =>
    [styled .pending ("  " ++ name), styled .comment (" -> " ++ waiting ++ "\n")]

/-- The statements of a template, then its holes and aliases. -/
def Template.summary (t : Template) : List Piece :=
  styled .header ("Template with " ++ toString t.statements.length ++ " statement(s):\n\n") ::
    (t.statements.zipIdx 1).flatMap (fun (s, i) =>
      [styled .comment ("  " ++ toString i ++ ". "), styled .identifier (s.line ++ "\n")]) ++
    waitingLines "Holes" (t.waitingParams.map fun (hole, params) =>
      ("\x7b" ++ hole ++ "\x7d", Text.listing params)) ++
    waitingLines "Aliases" (t.collectAliases.map fun (param, name) => ("@" ++ name, param))

/-- What a statement came to: its error, the value its name is bound to, or its result. -/
def Statement.resultLines (s : Statement) : Except TextFault (List Piece) :=
  if s.failed then .ok [styled .failed ("    Error: " ++ s.outcome.error ++ "\n")]
  else match s.identifier? with
    | some left => do
      return [styled .attribute ("    " ++ left.name ++ " = " ++ (← left.value.plain) ++ "\n")]
    | none =>
      match s.outcome.result with
      | .null => .ok []
      | v => do return [styled .attribute ("    => " ++ (← v.plain) ++ "\n")]

/-- A statement with its outcome. -/
def Statement.summary (s : Statement) : Except TextFault (List Piece) := do
  return (if s.failed then styled .failed "  ✗ " else styled .success "  ✓ ") ::
    styled .identifier (s.line ++ "\n") :: (← s.resultLines)

/-- How a run ended. -/
def Report.lastLine (r : Report) : Piece :=
  if r.aborted ≠ "" then styled .failed ("Run aborted: " ++ r.aborted ++ "\n")
  else if r.statements.isEmpty then styled .comment "No statements to run.\n"
  else if r.failedCount = 0 then
    styled .success ("Run complete! Statements: " ++ toString r.succeededCount ++
      " succeeded, 0 failed.\n")
  else
    styled .failed ("Run finished with errors. Statements: " ++ toString r.succeededCount ++
      " succeeded, " ++ toString r.failedCount ++ " failed.\n")

/-- Every statement with its outcome, and how the run ended. -/
def Report.summary (r : Report) : Except TextFault (List Piece) := do
  let statements ← r.statements.mapM Statement.summary
  return styled .header ("Run " ++ r.id ++ "\n\n") :: statements.flatten ++
    [unstyled "\n", r.lastLine]

end Provision
