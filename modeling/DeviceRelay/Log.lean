/-!
# Log entries

What the library reports to its operators beside its results: warnings and errors, each with the name
of the part that reports it. An entry may carry the trace of a failure, which is not part of the text.
-/

namespace DeviceRelay

/-- How grave an entry is. -/
inductive LogLevel where
  | warning
  | error
  deriving Repr, DecidableEq

/-- The name of a level. -/
def LogLevel.text : LogLevel → String
  | .warning => "WARNING"
  | .error => "ERROR"

/-- An entry of the log. -/
structure LogEntry where
  level : LogLevel
  source : String
  text : String
  /-- Whether the trace of a failure comes with it. -/
  traced : Bool
  deriving Repr, DecidableEq

namespace LogEntry

/-- A warning. -/
def warning (source text : String) : LogEntry := ⟨.warning, source, text, false⟩

/-- An error without a trace. -/
def error (source text : String) : LogEntry := ⟨.error, source, text, false⟩

/-- An error with a trace. -/
def failure (source text : String) : LogEntry := ⟨.error, source, text, true⟩

end LogEntry

end DeviceRelay
