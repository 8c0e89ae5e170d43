import Provision.Command.Options
import Provision.Display.Console
import Provision.Driver.Catalogue
import Provision.Run.Basic
import Provision.Settings.Basic

/-!
# Sessions

A command is carried out in a world: an environment, a console, stored files, lines of input, a
catalogue of drivers, an identifier and two times for a run. What it does is kept in a transcript,
and it ends with an exit code or with a failure that it has no words for.

* `Command.World`, `Command.Transcript`, `Command.Ending`: what is there before a command, what
  it does, and how it ends.
* `Command.Step`: a part of a command, which may end it.
-/

namespace Provision.Command

/-- What a command finds. The type `σ` is for the states of its drivers, and the type `ε` for
failures of what lies outside. -/
structure World (σ ε : Type) where
  environment : Table String := []
  /-- How many cells a line of the console has. -/
  width : Nat := 80
  /-- The address of a manual for complaints about documents, empty if there is none. -/
  manual : String := ""
  files : Files.Store := []
  input : List String := []
  backend : Backend σ
  catalogue : Catalogue σ ε := []
  runId : Except ε String
  started : Time.Moment
  finished : Time.Moment

/-- A failure that a command has no words for. -/
inductive Failure (ε : Type) where
  | settings (e : Settings.Error)
  | file (f : Files.Failure)
  | tooDeep
  | markup (e : Markup.Error)
  /-- A text that should be printed. -/
  | unprinted (u : Text.Unencodable)
  /-- A question that should be asked. -/
  | unasked (u : Text.Unencodable)
  | relativeModule (name : String)
  | outside (e : ε)
  | exited (message : String)
  | alreadyBound (e : AlreadyBound)
  /-- A report with a value that has no text. -/
  | unshown (f : TextFault)

/-- How a command ends. -/
inductive Ending (ε : Type) where
  | exit (code : Nat)
  | usage (e : UsageError)
  /-- There was no input left to answer a question. -/
  | noInput
  | failed (f : Failure ε)

/-- The exit code of an ending. -/
def Ending.code {ε : Type} : Ending ε → Nat
  | .exit code => code
  | .usage _ => 2
  | .noInput => 1
  | .failed _ => 1

/-- What a command did: what it printed and noted, the holes it asked for, the run it made, and
the files as they are now. -/
structure Transcript (σ : Type) where
  output : String := ""
  log : List Log.Entry := []
  asked : List String := []
  conclusion : Option (Run.Conclusion σ) := none
  files : Files.Store := []

/-- An ending and what was done before. -/
structure Result (σ ε : Type) where
  ending : Ending ε
  transcript : Transcript σ

/-- A step of a command, which may end it. -/
abbrev Step (σ ε α : Type) := ExceptT (Ending ε) (StateM (Transcript σ)) α

variable {σ ε : Type}

/-- The command ends. -/
def stop {α : Type} (e : Ending ε) : Step σ ε α := throw e

/-- The command fails. -/
def failWith {α : Type} (f : Failure ε) : Step σ ε α := stop (.failed f)

/-- Notes added to the log. -/
def note (entries : List Log.Entry) : Step σ ε Unit :=
  modify fun t => { t with log := t.log ++ entries }

/-- The wording of the failure to print a text. -/
def unprintedMessage (u : Text.Unencodable) : String :=
  u.message ++ "\n*** You may need to add PYTHONIOENCODING=utf-8 to your environment ***"

/-- A text put out as it is, unless it cannot be encoded. -/
def put (text : String) : Step σ ε Unit :=
  match Text.unencodable? text with
  | some u => failWith (.unprinted u)
  | none => modify fun t => { t with output := t.output ++ text }

/-- A text put out, unless its markup cannot be shown. -/
def putShown : Except Markup.Error String → Step σ ε Unit
  | .ok text => put text
  | .error e => failWith (.markup e)

/-- A line with markup printed. -/
def printLine (w : World σ ε) (markup : String) : Step σ ε Unit :=
  putShown (Display.printedMarkup w.width markup)

/-- The markup of an error line. -/
def errorLine (message : String) : String := "[bold red]✗ Error:[/bold red] " ++ message

/-- The markup of a line of lesser weight. -/
def dimLine (message : String) : String := "[dim]" ++ message ++ "[/dim]"

/-- An error line, possibly with a hint, after which the command ends. -/
def complain {α : Type} (w : World σ ε) (message : String) (hint : Option String := none) :
    Step σ ε α := do
  printLine w (errorLine message)
  match hint with
  | some h => printLine w (dimLine ("Hint: " ++ h))
  | none => pure ()
  stop (.exit 1)

end Provision.Command
