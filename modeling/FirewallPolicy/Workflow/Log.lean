/-!
# Log entries

What a job reports while it runs.  The names of the loggers are part of the output.
-/

namespace FirewallPolicy

/-- How much a log entry matters. -/
inductive LogLevel where
  | debug
  | info
  | warning
  | error
  deriving DecidableEq, Repr

/-- The name of a level. -/
def LogLevel.name : LogLevel → String
  | .debug => "DEBUG"
  | .info => "INFO"
  | .warning => "WARNING"
  | .error => "ERROR"

/-- The rank of a level; what matters more ranks higher. -/
def LogLevel.rank : LogLevel → Nat
  | .debug => 10
  | .info => 20
  | .warning => 30
  | .error => 40

/-- A message of a logger. -/
structure LogEntry where
  level : LogLevel
  logger : String
  message : String
  deriving DecidableEq, Repr

/-- A log entry as a line, without the time in front. -/
def LogEntry.text (e : LogEntry) : String := e.level.name ++ " " ++ e.logger ++ ": " ++ e.message

/-- Entries of one logger. -/
structure Logger where
  name : String

/-- An entry for details. -/
def Logger.debug (l : Logger) (message : String) : LogEntry := ⟨.debug, l.name, message⟩

/-- An entry for progress. -/
def Logger.info (l : Logger) (message : String) : LogEntry := ⟨.info, l.name, message⟩

/-- An entry for failures. -/
def Logger.error (l : Logger) (message : String) : LogEntry := ⟨.error, l.name, message⟩

end FirewallPolicy
