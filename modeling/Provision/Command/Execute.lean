import Provision.Command.Assignment
import Provision.Command.Session
import Provision.Display.Control
import Provision.Display.Summary
import Provision.Report.Stored

/-!
# Commands

A template is shown, or it is completed and run.

* `Command.prepare`: a template with overrides, aliases and fills, and the holes that are left.
* `Command.completeHoles`: these holes asked for, or complained about.
* `Command.performRun`: the run itself and its report.
* `Command.execute`: the whole command that arguments ask for.
-/

namespace Provision.Command

variable {σ ε : Type}

/-! ## Loading -/

/-- The template at a path; a command ends when there is none. -/
def loadTemplate (w : World σ ε) (path : Files.Path) : Step σ ε Template :=
  match Template.load w.files path with
  | .ok t => pure t
  | .error (.unknown f) => failWith (.file f)
  | .error (.invalid (.json .tooDeep)) => failWith .tooDeep
  | .error e => complain w (e.message w.manual)

/-- The values given by repeated assignments. -/
def assignments (option : String) (items : List String) : Step σ ε (Table Value) :=
  match readAssignments option items with
  | .ok t => pure t
  | .error (.notAssignment item option) => stop (.usage (.badAssignment item option))
  | .error .tooDeep => failWith .tooDeep

/-- The driver to use: the one asked for, or else that of the settings. An empty name is none. -/
def driverSpec (asked : Option String) (settings : Settings) : String :=
  let asked := asked.getD ""
  if asked ≠ "" then asked else settings.driver.getD ""

/-- The driver of a given name; a command ends when there is none. -/
def loadDriver (w : World σ ε) (spec : String) : Step σ ε σ :=
  match w.catalogue.load spec with
  | .ok start => pure start
  | .error (.relative name) => failWith (.relativeModule name)
  | .error (.failed e) => failWith (.outside e)
  | .error e => complain w (e.configuration?.getD "")

/-! ## Completing the template -/

/-- A template with overrides, aliases and fills, the holes that are left, and what is noted
about it. -/
structure Prepared where
  template : Template
  left : List Template.OpenHole
  notes : List Log.Entry

/-- A template with overrides, aliases and fills, in this order. -/
def prepare (overrides aliases fills : Table Value) (t : Template) : Prepared :=
  let (template, left) := ((t.merge overrides).resolveAliases aliases).fillAll fills
  { template
    left
    notes := t.mergeNotes overrides ++ Template.unfilledNotes left }

/-- Why a question was not answered. -/
inductive NoAnswer where
  | noInput
  | tooDeep
  | unasked (u : Text.Unencodable)
deriving DecidableEq, Repr

/-- The lines of input that are left, and what was printed while asking. -/
structure Dialogue where
  input : List String
  output : String := ""
deriving DecidableEq, Repr

/-- The question for the value of a hole. -/
def question (hole : String) : String := Display.withoutControls hole ++ ": "

/-- The first line that is not empty, and the dialogue after it was asked for. Every line that is
read is printed behind the question. -/
def askLine (question : String) : List String → String → Option String × Dialogue
  | [], output => (none, ⟨[], output ++ question⟩)
  | line :: lines, output =>
    let output := output ++ question ++ line ++ "\n"
    if line = "" then askLine question lines output else (some line, ⟨lines, output⟩)

/-- Asks for the value of a hole, unless the question cannot be encoded. -/
def askHole : Template.Asker Dialogue NoAnswer := fun hole d =>
  match Text.unencodable? (question hole) with
  | some u => (.error (.unasked u), d)
  | none =>
    match askLine (question hole) d.input d.output with
    | (none, d) => (.error .noInput, d)
    | (some line, d) => ((readValue line).mapError fun _ => .tooDeep, d)

/-- The template with every hole asked for. -/
def askAll (input : List String) (t : Template) : Step σ ε Template := do
  let (t, a) := t.ask askHole ({ input } : Dialogue)
  modify fun s => { s with output := s.output ++ a.state.output, asked := a.asked }
  match a.failure with
  | none => pure t
  | some .noInput => stop .noInput
  | some .tooDeep => failWith .tooDeep
  | some (.unasked u) => failWith (.unasked u)

/-- The holes that are left are asked for, if that is wanted; otherwise the command ends. -/
def completeHoles (w : World σ ε) (interactive : Bool) (p : Prepared) : Step σ ε Template :=
  if p.left.isEmpty then pure p.template
  else if interactive then askAll w.input p.template
  else complain w ("Missing values for holes: " ++ Text.listing (Template.holeNames p.left))
    (some "pass --fill hole=value or use --interactive")

/-! ## Running -/

/-- The markup of the panel above a run. -/
def banner (file : Files.Path) (spec : String) (dryRun : Bool) : String :=
  "[bold blue]Stencil Run[/bold blue]\nTemplate: " ++ file.name ++ "\nDriver: " ++ spec ++
    (if dryRun then " (dry run)" else "")

/-- What a report comes to, unless a value in it has no text. -/
def shown {α : Type} : Except TextFault α → Step σ ε α
  | .ok a => pure a
  | .error f => failWith (.unshown f)

/-- A report written to a file. -/
def writeReport (w : World σ ε) (r : Report) (path : Files.Path) : Step σ ε Unit := do
  let json ← shown r.toJson
  match (← get).files.write path (Utf8.encode json) with
  | .error f => failWith (.file f)
  | .ok files =>
    modify fun t => { t with files }
    printLine w (dimLine ("Report written to " ++ path.text))

/-- A report printed and, if that is wanted, written to a file. -/
def publish (w : World σ ε) (r : Report) (path : Option Files.Path) : Step σ ε Unit := do
  let summary ← shown r.summary
  put (Display.printed w.width summary)
  match path with
  | some path => writeReport w r path
  | none => pure ()

/-- A run of a template and its report. A run that was aborted has failed; one that was not has
failed if a statement has. -/
def performRun (w : World σ ε) (start : σ) (report : Option Files.Path) (t : Template) :
    Step σ ε Unit :=
  match w.runId with
  | .error e => failWith (.outside e)
  | .ok id => do
    let c := t.run w.backend.toDriver start id w.started w.finished
    modify fun s => { s with conclusion := some c, log := s.log ++ c.progress.log }
    match c.ending with
    | .aborted _ r =>
      publish w r report
      stop (.exit 1)
    | .complete r =>
      publish w r report
      if r.hasErrors then stop (.exit 1)
    | .exited message => failWith (.exited message)
    | .broken e => failWith (.alreadyBound e)

/-! ## The commands -/

/-- A template is shown. -/
def showCommand (w : World σ ε) (file : Files.Path) : Step σ ε Unit := do
  let t ← loadTemplate w file
  put (Display.printed w.width t.summary)

/-- A template is run. -/
def runCommand (w : World σ ε) (o : RunOptions) : Step σ ε Unit := do
  let settings ← match Settings.read w.environment w.files with
    | .ok s => pure s
    | .error e => failWith (.settings e)
  let template ← loadTemplate w o.file
  let fills ← assignments "--fill" o.fills
  let overrides ← assignments "--set" o.overrides
  let aliases ← assignments "--alias" o.aliases
  let spec := driverSpec o.driver settings
  if spec = "" then
    complain w "No driver configured" (some "pass --driver module:attribute or set STENCIL_DRIVER")
  let start ← loadDriver w spec
  let start := w.backend.setDryRun (o.dryRun || settings.dryRun) start
  let start := w.backend.setLogger "stencil.driver" start
  let prepared := prepare overrides aliases fills template
  note prepared.notes
  let template ← completeHoles w o.interactive prepared
  putShown (Display.printedPanel w.width (banner o.file spec (w.backend.isDryRun start)))
  performRun w start o.report template

/-- The version of the program. -/
def programVersion : String := "0.1.0"

/-- How the program is used. -/
def usageText : String :=
  "Usage: stencil COMMAND [ARGS]...\n\nCommands:\n" ++
  "  show TEMPLATE_FILE     Show a template's statements, holes and aliases.\n" ++
  "  run TEMPLATE_FILE      Run a template against a driver.\n" ++
  "  version                Show Stencil version.\n"

/-- What is asked for is done. -/
def perform (w : World σ ε) : Invocation → Step σ ε Unit
  | .help => put usageText
  | .version => printLine w ("Stencil version: [bold]" ++ programVersion ++ "[/bold]")
  | .summary file => showCommand w file
  | .run o => runCommand w o

/-- The command that arguments ask for. -/
def dispatch (w : World σ ε) (args : List String) : Step σ ε Unit :=
  match Invocation.ofArguments args with
  | .error e => stop (.usage e)
  | .ok invocation => perform w invocation

/-- A whole command. -/
def execute (w : World σ ε) (args : List String) : Result σ ε :=
  let (result, transcript) := (dispatch w args).run.run { files := w.files }
  match result with
  | .ok () => ⟨.exit 0, transcript⟩
  | .error ending => ⟨ending, transcript⟩

end Provision.Command
