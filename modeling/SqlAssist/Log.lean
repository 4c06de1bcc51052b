/-!
# Log records

Parts of the program report what they do as log records: a level, the name of the
reporting component and a message.  The command line prints the records at or above its
threshold, one per line, as `<LEVEL> <component>: <message>`.
-/

namespace SqlAssist.Log

/-- The severity of a record, in increasing order. -/
inductive Level
  | debug
  | info
  | warning
  | error
  deriving DecidableEq, Repr

/-- The rank of a level: records at or above a threshold's rank are printed. -/
def Level.rank : Level → Nat
  | .debug => 10
  | .info => 20
  | .warning => 30
  | .error => 40

/-- The name of a level as printed. -/
def Level.name : Level → String
  | .debug => "DEBUG"
  | .info => "INFO"
  | .warning => "WARNING"
  | .error => "ERROR"

/-- One log record. -/
structure Record where
  level : Level
  component : String
  message : String
  deriving DecidableEq, Repr

/-- The printed line of a record. -/
def Record.line (r : Record) : String := r.level.name ++ " " ++ r.component ++ ": " ++ r.message

end SqlAssist.Log
