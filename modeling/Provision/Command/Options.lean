import Provision.Files.Path
import Provision.Text.Names
import Provision.Text.Quoted

/-!
# Arguments of the command line

The first argument names a command, the others are options of it and what it is about, in any
order. An option is given by its long name, with its value behind an equals sign or as the next
argument, or by a letter after one dash. After two dashes alone nothing is an option any more.

* `Command.scan`: arguments sorted into options and others.
* `Command.Invocation.ofArguments`: what is asked for.
-/

namespace Provision.Command

/-- Why arguments make no sense. -/
inductive UsageError where
  | noCommand
  | unknownCommand (name : String)
  | unknownOption (name : String)
  | missingValue (option : String)
  | unexpectedValue (option : String)
  | missingArgument (name : String)
  | extraArgument (text : String)
  | badPath (path : String)
  | badAssignment (item option : String)
deriving DecidableEq, Repr

/-- The wording of an error. -/
def UsageError.message : UsageError → String
  | .noCommand => "Missing command."
  | .unknownCommand name => "No such command '" ++ name ++ "'."
  | .unknownOption name => "No such option: " ++ name
  | .missingValue option => "Option '" ++ option ++ "' requires an argument."
  | .unexpectedValue option => "Option '" ++ option ++ "' does not take a value."
  | .missingArgument name => "Missing argument '" ++ name ++ "'."
  | .extraArgument text => "Got unexpected extra argument (" ++ text ++ ")"
  | .badPath path => "Path " ++ Text.quoted path ++ " cannot be the name of a file."
  | .badAssignment item option =>
    "Invalid value for " ++ option ++ ": expected key=value, got '" ++ item ++ "'"

/-- The options of all commands. -/
inductive Switch where
  | driver
  | fill
  | override
  | aliasing
  | interactive
  | dryRun
  | report
  | help
deriving DecidableEq, Repr

/-- Whether an option has a value. -/
def Switch.hasValue : Switch → Bool
  | .driver | .fill | .override | .aliasing | .report => true
  | .interactive | .dryRun | .help => false

/-- The options a command knows: by long name, and by letter. -/
structure Known where
  long : List (String × Switch)
  short : List (Char × Switch) := []

/-- The options every command knows. -/
def knownAlways : Known := { long := [("--help", .help)] }

/-- The options of a run. -/
def knownForRun : Known where
  long := [("--driver", .driver), ("--fill", .fill), ("--set", .override), ("--alias", .aliasing),
    ("--interactive", .interactive), ("--dry-run", .dryRun), ("--report", .report),
    ("--help", .help)]
  short := [('i', .interactive)]

/-- Arguments sorted into options with their values, and others. -/
structure Scanned where
  options : List (Switch × String) := []
  others : List String := []
deriving DecidableEq, Repr

/-- Whether an argument is written as an option. -/
def isOption (arg : String) : Bool :=
  match arg.toList with
  | '-' :: _ :: _ => true
  | _ => false

/-- The name of an option, and the value behind its equals sign. -/
def nameAndValue (arg : String) : String × Option String :=
  match Text.cut '=' arg with
  | some (name, value) => (name, some value)
  | none => (arg, none)

/-- The options of letters after one dash. -/
def readLetters (known : Known) : List Char → Except UsageError (List (Switch × String))
  | [] => .ok []
  | c :: cs =>
    match known.short.lookup c with
    | none => .error (.unknownOption (String.ofList ['-', c]))
    | some option => (readLetters known cs).map ((option, "") :: ·)

/-- What an argument that is written as an option comes to. -/
inductive Reading where
  | complete (options : List (Switch × String))
  /-- The value is the next argument. -/
  | awaiting (option : Switch) (name : String)

/-- An argument that is written as an option. -/
def readOption (known : Known) (arg : String) : Except UsageError Reading :=
  let (name, value) := nameAndValue arg
  match known.long.lookup name with
  | some option =>
    if option.hasValue then
      .ok (match value with
        | some v => .complete [(option, v)]
        | none => .awaiting option name)
    else if value.isSome then .error (.unexpectedValue name)
    else .ok (.complete [(option, "")])
  | none =>
    match arg.toList with
    | '-' :: '-' :: _ => .error (.unknownOption name)
    | letters => (readLetters known (letters.drop 1)).map .complete

/-- Arguments sorted into options and others; `pending` is an option that waits for its value. -/
def scanFrom (known : Known) (pending : Option (Switch × String)) :
    List String → Except UsageError Scanned
  | [] =>
    match pending with
    | some (_, name) => .error (.missingValue name)
    | none => .ok {}
  | arg :: args =>
    match pending with
    | some (option, _) =>
      (scanFrom known none args).map fun s => { s with options := (option, arg) :: s.options }
    | none =>
      if arg = "--" then .ok { others := args }
      else if isOption arg then
        match readOption known arg with
        | .error e => .error e
        | .ok (.awaiting option name) => scanFrom known (some (option, name)) args
        | .ok (.complete options) =>
          (scanFrom known none args).map fun s => { s with options := options ++ s.options }
      else (scanFrom known none args).map fun s => { s with others := arg :: s.others }

/-- Arguments sorted into options and others. -/
def scan (known : Known) (args : List String) : Except UsageError Scanned :=
  scanFrom known none args

namespace Scanned

/-- The values given for an option, in order. -/
def values (s : Scanned) (option : Switch) : List String :=
  (s.options.filter fun o => o.1 = option).map Prod.snd

/-- The last value given for an option. -/
def last? (s : Scanned) (option : Switch) : Option String := (s.values option).getLast?

/-- Whether an option is given. -/
def has (s : Scanned) (option : Switch) : Bool := !(s.values option).isEmpty

end Scanned

/-- What a run is asked for. -/
structure RunOptions where
  file : Files.Path
  driver : Option String := none
  fills : List String := []
  overrides : List String := []
  aliases : List String := []
  interactive : Bool := false
  dryRun : Bool := false
  report : Option Files.Path := none
deriving DecidableEq, Repr

/-- What is asked for. -/
inductive Invocation where
  | help
  | version
  | summary (file : Files.Path)
  | run (options : RunOptions)
deriving DecidableEq, Repr

/-- The paths that arguments name. -/
def Invocation.paths : Invocation → List Files.Path
  | .help => []
  | .version => []
  | .summary file => [file]
  | .run o => o.file :: o.report.toList

/-- The one argument that is no option. -/
def onlyArgument : List String → Except UsageError String
  | [] => .error (.missingArgument "TEMPLATE_FILE")
  | [arg] => .ok arg
  | _ :: extra :: _ => .error (.extraArgument extra)

/-- The path that an argument names. -/
def readPath (arg : String) : Except UsageError Files.Path :=
  let path := Files.Path.ofText arg
  if !Files.isName path.text then .error (.badPath arg) else .ok path

/-- What is asked for by a command and its arguments. -/
def Invocation.ofCommand (name : String) (args : List String) : Except UsageError Invocation := do
  match name with
  | "version" =>
    let s ← scan knownAlways args
    if s.has .help then pure .help
    else match s.others with
      | [] => pure .version
      | extra :: _ => throw (.extraArgument extra)
  | "show" =>
    let s ← scan knownAlways args
    if s.has .help then pure .help
    else pure (.summary (← readPath (← onlyArgument s.others)))
  | "run" =>
    let s ← scan knownForRun args
    if s.has .help then pure .help
    else
      let file ← readPath (← onlyArgument s.others)
      let report ← (s.last? .report).mapM readPath
      pure (.run
        { file
          driver := s.last? .driver
          fills := s.values .fill
          overrides := s.values .override
          aliases := s.values .aliasing
          interactive := s.has .interactive
          dryRun := s.has .dryRun
          report })
  | _ => throw (.unknownCommand name)

/-- Whether help is asked for before the command, and what follows. Options before the command
are only those every command knows. -/
def readLeading : List String → Except UsageError (Bool × List String)
  | [] => .ok (false, [])
  | arg :: args =>
    if arg = "--" then .ok (false, args)
    else if isOption arg then
      match readOption knownAlways arg with
      | .error e => .error e
      | .ok _ => (readLeading args).map fun (_, rest) => (true, rest)
    else .ok (false, arg :: args)

/-- What is asked for by arguments. -/
def Invocation.ofArguments (args : List String) : Except UsageError Invocation :=
  match readLeading args with
  | .error e => .error e
  | .ok (true, _) => .ok .help
  | .ok (false, []) => .error .noCommand
  | .ok (false, name :: args) => Invocation.ofCommand name args

end Provision.Command
