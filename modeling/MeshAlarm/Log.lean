/-!
# Log records

The machines report what they do as records with a level. Which of them are written is the reader's
choice: a threshold keeps the records at or above its own level.

## Main definitions

* `Level`, `Level.admits`: the levels, and whether a threshold keeps a level
* `Record`: a level and a text
* `Record.line`: a record as one line
-/

namespace MeshAlarm.Log

/-- The levels of log records. -/
inductive Level
  | debug
  | info
  | warning
  | error
  deriving DecidableEq, Repr

namespace Level

/-- The rank of a level; graver levels rank higher. -/
def rank : Level → Nat
  | debug => 0
  | info => 1
  | warning => 2
  | error => 3

/-- Whether a threshold keeps the records of a level. -/
def admits (threshold level : Level) : Bool :=
  threshold.rank ≤ level.rank

/-- The name of a level in lines. -/
def label : Level → String
  | debug => "DEBUG"
  | info => "INFO"
  | warning => "WARNING"
  | error => "ERROR"

/-- The name of a level as a threshold. -/
def thresholdName : Level → String
  | debug => "debug"
  | info => "info"
  | warning => "warning"
  | error => "error"

/-- The level that a threshold names, spelled exactly. -/
def ofThresholdName? (text : String) : Option Level :=
  [error, warning, info, debug].find? (·.thresholdName == text)

end Level

/-- What a machine reports. -/
structure Record where
  level : Level
  text : String
  deriving DecidableEq, Repr

/-- A record as one line. -/
def Record.line (r : Record) : String :=
  r.level.label ++ " " ++ r.text

end MeshAlarm.Log
