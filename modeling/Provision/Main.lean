import Provision.Command.Execute
import Provision.Driver.Tree
import Provision.RunId.Generator
import Std.Time.DateTime.Timestamp

/-!
# The program

The outer layer: it looks at the environment, the clock and the files that the arguments name,
has the command carried out, prints what there is to print, and writes what was written.

A command that has no input left is carried out again with one line more.
-/

namespace Provision.Main

open Command

/-- The drivers that come with the program: a registry and a chain, both empty. -/
def builtin : Catalogue (Tree Empty) String :=
  let module : Module (Tree Empty) String :=
    { attributes :=
        [("RegistryDriver", .factory (.driver (.registry (Badge.new "RegistryDriver") []))),
         ("MultiDriver", .factory (.driver (.chain (Badge.new "MultiDriver") [])))] }
  [("stencil", .found { attributes := [], isPackage := true }),
   ("stencil.driver", .found module)]

/-- Microseconds since the start of 1970. -/
def microseconds : IO Int := do
  let now ← Std.Time.Timestamp.now
  return now.toNanosecondsSinceUnixEpoch.val / 1000

/-- A new identifier for a run. -/
def newRunId (micros : Int) : IO (Except String String) := do
  let bytes ← IO.getRandomBytes 10
  let drawn := bytes.toList.foldl (fun n b => n * 256 + b.toNat) 0
  let generator : RunId.Generator := {}
  return match (generator.next (.ok (micros / 1000)) (.ok drawn)).2 with
    | .ok id => .ok id
    | .error (.range e) => .error e.message
    | .error (.source e) => .error e

/-- What is at a place. -/
def probe (place : Files.Path) : IO (Option Files.Item) := do
  try
    let real ← IO.FS.realPath (Text.toPlain place.text)
    if ← real.isDir then return some .directory
    return some (.file (← IO.FS.readBinFile real).toList)
  catch _ => return none

/-- The store with what is on the way along a path. -/
def look (store : Files.Store) (path : Files.Path) : IO Files.Store := do
  let mut store := store
  let mut place : Files.Path := { start := path.start }
  for name in path.names do
    place := if name = ".." then Files.Store.up place else place.child name
    if let some item ← probe place then store := store.put place item
  return store

/-- The variables of the environment that settings are made of, in both spellings. -/
def environment : IO (Table String) := do
  let mut found : Table String := []
  for field in ["log_level", "driver", "dry_run"] do
    let name := Settings.variableName field
    for spelling in [name, name.toUpper] do
      if let some value ← IO.getEnv spelling then
        found := found.set spelling (Text.ofPlain value)
  return found

/-- How many cells a line of the console has. -/
def consoleWidth : IO Nat := do
  return ((← IO.getEnv "COLUMNS").bind String.toNat?).getD 80

/-- The paths that a command may look at. -/
def pathsOf (args : List String) : List Files.Path :=
  match Invocation.ofArguments args with
  | .ok invocation => Settings.file :: invocation.paths
  | .error _ => []

/-- The command carried out, with a line of input more each time there is none left. What was
printed before, and the line that was typed, is not printed again. -/
partial def converse (w : World (Tree Empty) String) (args : List String) (printed : Nat) :
    IO (Result (Tree Empty) String) := do
  let o := execute w args
  let out ← IO.getStdout
  out.putStr (Text.toPlain (String.ofList (o.transcript.output.toList.drop printed)))
  out.flush
  match o.ending with
  | .noInput =>
    let line ← (← IO.getStdin).getLine
    if line.isEmpty then return o
    let line := Text.ofPlain (String.ofList (line.toList.filter fun c => c ≠ '\n' && c ≠ '\r'))
    converse { w with input := w.input ++ [line] } args
      (o.transcript.output.length + line.length + 1)
  | _ => return o

/-- The files that are new or changed are written. -/
def save (before after : Files.Store) : IO Unit := do
  for (place, item) in after do
    match item with
    | .directory => pure ()
    | .file bytes =>
      if before.lookup place ≠ some item then
        IO.FS.writeBinFile (Text.toPlain place.text) ⟨bytes.toArray⟩

/-- The wording of a failure. -/
def failureMessage : Failure String → String
  | .settings (.rejected r) => r.headline
  | .settings (.unreadable f) => f.message
  | .file f => f.message
  | .tooDeep => "nested too deep"
  | .markup e => e.message
  | .unprinted u => unprintedMessage u
  | .unasked u => u.message
  | .relativeModule name => Catalogue.relativeMessage name
  | .outside e => e
  | .exited message => message
  | .alreadyBound e => e.message
  | .unshown f => f.message

end Provision.Main

open Provision Provision.Main in
/-- The program. -/
def main (args : List String) : IO UInt32 := do
  let args := args.map Text.ofPlain
  let store ← (pathsOf args).foldlM look []
  let micros ← microseconds
  let moment := Time.Moment.ofMicros micros none
  let w : Command.World (Provision.Tree Empty) String :=
    { environment := ← environment
      width := ← consoleWidth
      files := store
      backend := Provision.Tree.backend
      catalogue := builtin
      runId := ← newRunId micros
      started := moment
      finished := moment }
  let o ← converse w args 0
  save store o.transcript.files
  match o.ending with
  | .usage e => IO.eprintln (Text.toPlain ("Error: " ++ e.message))
  | .failed f => IO.eprintln (Text.toPlain ("Error: " ++ failureMessage f))
  | .noInput => IO.eprintln "Aborted!"
  | .exit _ => pure ()
  return UInt32.ofNat o.ending.code
