import Provision.Settings.Basic
import Provision.Text.Case
import Provision.Text.Quoted

/-!
# The log and its level

The level of the log is a number. The settings name it, in either case; an unknown name is the
level of information. Two names are not those of levels, but of a layout of log lines and of the
styles of layouts: they are refused.

The log is set up once: as soon as it has a handler, setting it up again changes nothing.
-/

namespace Provision.Settings

/-- The numbers of the levels, by name. -/
def levels : Table Nat :=
  [("NOTSET", 0), ("DEBUG", 10), ("INFO", 20), ("WARN", 30), ("WARNING", 30), ("ERROR", 40),
    ("CRITICAL", 50), ("FATAL", 50)]

/-- The level of information. -/
def infoLevel : Nat := 20

/-- The layout that stands among the levels. -/
def basicLayout : String := "%(levelname)s:%(name)s:%(message)s"

/-- The styles of layouts that stand among the levels, each with its sign, its name, and the basic
layout in it. -/
def layoutStyles : List (String × String × String) :=
  [("%", "PercentStyle", basicLayout),
    ("\x7b", "StrFormatStyle", "\x7blevelname\x7d:\x7bname\x7d:\x7bmessage\x7d"),
    ("$", "StringTemplateStyle", "$\x7blevelname\x7d:$\x7bname\x7d:$\x7bmessage\x7d")]

/-- The layout of the log's lines. -/
def logLayout : String := "%(asctime)s - %(name)s - %(levelname)s - %(message)s"

/-- The refusal of something that is no level. -/
inductive LevelError where
  /-- A text that names no level. -/
  | unknown (name : String)
  /-- Something that is neither a number nor a text. -/
  | noName (shown : String)
deriving DecidableEq, Repr

/-- The wording of the refusal. -/
def LevelError.message : LevelError → String
  | .unknown name => "Unknown level: " ++ Text.quoted name
  | .noName shown => "Level not an integer or a valid string: " ++ shown

/-- The styles of layouts as they are shown. -/
def shownStyles : String :=
  "\x7b" ++ ", ".intercalate (layoutStyles.map fun (sign, name, layout) =>
    Text.quoted sign ++ ": (<class 'logging." ++ name ++ "'>, " ++ Text.quoted layout ++ ")") ++
  "\x7d"

/-- The number of the level of a given name. -/
def level (name : String) : Except LevelError Nat :=
  match Text.upper name with
  | "BASIC_FORMAT" => .error (.unknown basicLayout)
  | "_STYLES" => .error (.noName shownStyles)
  | name => .ok ((levels.get? name).getD infoLevel)

/-- The state of the log: its level, and the layouts of its handlers. -/
structure LogState where
  level : Nat := 30
  layouts : List String := []
deriving DecidableEq, Repr

/-- The log set up by settings. The handler is there before the level is looked at. -/
def configureLog (s : Settings) (l : LogState) : LogState × Option LevelError :=
  if l.layouts ≠ [] then (l, none)
  else
    let l := { l with layouts := [logLayout] }
    match level s.logLevel with
    | .ok n => ({ l with level := n }, none)
    | .error e => (l, some e)

end Provision.Settings
