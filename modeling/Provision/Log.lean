/-!
# Log records

What a pass or a run notes for the operator, with a level and the name of the logger.
-/

namespace Provision.Log

/-- How grave a note is. -/
inductive Level where
  | debug
  | info
  | warning
  | error
deriving DecidableEq, Repr

/-- The name of a level. -/
def Level.name : Level → String
  | .debug => "DEBUG"
  | .info => "INFO"
  | .warning => "WARNING"
  | .error => "ERROR"

/-- A note. -/
structure Entry where
  level : Level
  logger : String
  message : String
deriving DecidableEq, Repr

end Provision.Log
