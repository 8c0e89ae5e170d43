import Provision.Report.Basic
import Provision.Run.Scope

/-!
# Running a template

The statements are executed one after the other. A statement that is not ready, or whose
request fails, is recorded as failed and the run goes on; its name, if it declares one, is bound
to a failed mark. Only a reference to a name that no earlier statement declares aborts the run,
and only a backend that ends the program stops it without a report.

The template itself is left alone: every statement is copied without its outcome and its bound
value, so a run starts afresh and a template can be run any number of times.

* `Run.step`: one statement.
* `Run.steps`: statements one after the other, until one stops the run.
* `Template.run`: a whole run, with its report.
-/

namespace Provision

/-- The node with nothing bound. -/
def Node.unbound : Node → Node
  | .expression e => .expression e
  | .declaration left right => .declaration { name := left.name } right

/-- The statement as it stands before a run. -/
def Statement.fresh (s : Statement) : Statement :=
  { s with node := s.node.unbound, outcome := {} }

namespace Run

/-- A request with the response to it. -/
structure Exchange where
  request : Request
  response : Response
deriving Repr

/-- How far a run has come. -/
structure Progress (σ : Type) where
  state : σ
  scope : Scope := []
  done : List Statement := []
  exchanges : List Exchange := []
  log : List Log.Entry := []

/-- What stops a run before its end. -/
inductive Stop where
  | undeclared (name : String)
  | exit (message : String)
  | alreadyBound (error : AlreadyBound)
deriving DecidableEq, Repr

/-- The name of the logger of runs. -/
def logger : String := "stencil.runner"

variable {σ : Type}

namespace Progress

/-- A note added to the log. -/
def note (p : Progress σ) (level : Log.Level) (message : String) : Progress σ :=
  { p with log := p.log ++ [⟨level, logger, message⟩] }

/-- A statement recorded. -/
def record (p : Progress σ) (s : Statement) : Progress σ := { p with done := p.done ++ [s] }

/-- A request made of the driver. -/
def exchange (driver : Driver σ) (p : Progress σ) (request : Request) : Response × Progress σ :=
  let (response, state) := driver.perform p.state request
  (response, { p with
    state := state
    exchanges := p.exchanges ++ [⟨request, response⟩]
    log := p.log ++ response.notes })

end Progress

/-- The value a declared name is bound to. -/
def boundValue (o : Outcome) : Value := if o.failed then .failed o.error else o.result

/-- A statement recorded with its outcome, and its name bound. -/
def settle (p : Progress σ) (s : Statement) (o : Outcome) : Progress σ × Option Stop :=
  let p := if o.failed then
      p.note .warning ("Statement '" ++ s.line ++ "' failed: " ++ o.error)
    else p
  let s := { s with outcome := o }
  match s.node with
  | .expression _ => (p.record s, none)
  | .declaration left right =>
    match left.bind (boundValue o) with
    | .ok bound =>
      ({ p.record { s with node := .declaration bound right } with
          scope := p.scope.bind left.name (boundValue o) }, none)
    | .error e => (p.record s, some (.alreadyBound e))

/-- One statement; `total` is the number of all statements. -/
def step (driver : Driver σ) (total : Nat) (p : Progress σ) (s : Statement) :
    Progress σ × Option Stop :=
  let s := s.fresh
  let p := p.note .debug
    ("[" ++ toString (p.done.length + 1) ++ "/" ++ toString total ++ "] " ++ s.line)
  match s.expression.readiness p.scope with
  | .undeclared name =>
    (p.record { s with outcome := { error := undeclaredMessage name } }, some (.undeclared name))
  | .blocked obstacle => settle p s { error := obstacle.message }
  | .ready params =>
    let (response, p) := p.exchange driver ⟨s.expression.action, s.expression.entity, params⟩
    match response.reply with
    | .value v => settle p s { result := v }
    | .fault f => settle p s { error := f.summary }
    | .exit message => (p, some (.exit message))

/-- Statements one after the other, until one stops the run. -/
def steps (driver : Driver σ) (total : Nat) :
    List Statement → Progress σ → Progress σ × Option Stop
  | [], p => (p, none)
  | s :: ss, p =>
    match step driver total p s with
    | (p, some stop) => (p, some stop)
    | (p, none) => steps driver total ss p

/-- How a run ends. -/
inductive Ending where
  | complete (report : Report)
  | aborted (name : String) (report : Report)
  | exited (message : String)
  | broken (error : AlreadyBound)
deriving Repr

/-- The report of an ending, if it has one. -/
def Ending.report? : Ending → Option Report
  | .complete r => some r
  | .aborted _ r => some r
  | .exited _ => none
  | .broken _ => none

/-- An ending, with all that happened on the way. -/
structure Conclusion (σ : Type) where
  ending : Ending
  progress : Progress σ

/-- The requests made, in order. -/
def Conclusion.requests (c : Conclusion σ) : List Request :=
  c.progress.exchanges.map Exchange.request

/-- The requests for which a function of the backend was run, in order. -/
def Conclusion.calls (c : Conclusion σ) : List Request :=
  (c.progress.exchanges.filter fun e => e.response.ran).map Exchange.request

/-- The end of a run that is over. -/
def conclude (id : String) (started finished : Time.Moment) :
    Progress σ × Option Stop → Conclusion σ
  | (p, none) =>
    let report : Report :=
      { id, statements := p.done, started, finished := some finished }
    ⟨.complete report, p.note .info ("Run " ++ id ++ " complete: " ++
      toString report.succeededCount ++ " succeeded, " ++
      toString report.failedCount ++ " failed")⟩
  | (p, some (.undeclared name)) =>
    let reason := undeclaredMessage name
    ⟨.aborted name
        { id, statements := p.done, started, finished := some finished, aborted := reason },
      p.note .error ("Run " ++ id ++ " aborted at statement " ++ toString p.done.length ++
        ": " ++ reason)⟩
  | (p, some (.exit message)) => ⟨.exited message, p⟩
  | (p, some (.alreadyBound e)) => ⟨.broken e, p⟩

end Run

/-- A run of a template against a driver in a given state. -/
def Template.run {σ : Type} (driver : Driver σ) (state : σ) (id : String)
    (started finished : Time.Moment) (t : Template) : Run.Conclusion σ :=
  let total := t.statements.length
  let start : Run.Progress σ := { state }
  let start := start.note .info
    ("Starting run " ++ id ++ " with " ++ toString total ++ " statements")
  Run.conclude id started finished (Run.steps driver total t.statements start)

end Provision
