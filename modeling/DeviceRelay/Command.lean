import DeviceRelay.Dictionary
import DeviceRelay.Fault

/-!
# Results of commands

A reply to a command has no body: what the command wrote, its exit code and what went wrong are
metrics. A reply without any of them has no result. Otherwise each metric has to be of its kind, and
the result has to say how the command ended: by an exit code, by a failure or by a timeout.
-/

namespace DeviceRelay

/-- The result of a command. -/
structure CommandResult where
  stdout : Option String
  stderr : Option String
  exitCode : Option Int
  timedOut : Bool
  exceptionMessage : Option String
  exceptionStack : Option String
  deriving Repr, DecidableEq

namespace CommandResult

/-- What the command wrote. -/
def stdoutMetric : String := "command.stdout"

/-- What the command wrote about failures. -/
def stderrMetric : String := "command.stderr"

/-- The command's exit code. -/
def exitMetric : String := "command.exit.code"

/-- Whether the command took too long. -/
def timeoutMetric : String := "command.timedout"

/-- What failed. -/
def messageMetric : String := "command.exception.message"

/-- Where it failed. -/
def stackMetric : String := "command.exception.stack"

/-- The metrics of a result. -/
def metricNames : List String :=
  [stdoutMetric, stderrMetric, exitMetric, timeoutMetric, messageMetric, stackMetric]

/-- A metric that is a text; null counts as none. -/
def textOf (metrics : Dictionary Value) (name : String) : Except Fault (Option String) :=
  match metrics.get? name with
  | none | some .null => .ok none
  | some (.text s) => .ok (some s)
  | some v => .error (.validation name ("expected a string, got " ++ v.kindName))

/-- The exit code; null counts as none. -/
def exitOf (metrics : Dictionary Value) : Except Fault (Option Int) :=
  match metrics.get? exitMetric with
  | none | some .null => .ok none
  | some (.int n) => .ok (some n)
  | some v => .error (.naming v (.validation exitMetric ("expected an integer, got " ++ v.shown)))

/-- Whether the command took too long; null is no answer. -/
def timeoutOf (metrics : Dictionary Value) : Except Fault Bool :=
  match metrics.get? timeoutMetric with
  | none => .ok false
  | some (.bool b) => .ok b
  | some v => .error (.naming v (.validation timeoutMetric ("expected a boolean, got " ++ v.shown)))

/-- The result says how the command ended. -/
def isConclusive (r : CommandResult) : Bool :=
  r.exitCode.isSome || r.exceptionMessage.isSome || r.timedOut

/-- Whether the metrics speak of a result. -/
def isReported (metrics : Dictionary Value) : Bool := metricNames.any metrics.has

/-- The result that the metrics speak of. -/
def ofMetrics (metrics : Dictionary Value) : Except Fault CommandResult := do
  let timedOut ← timeoutOf metrics
  let stdout ← textOf metrics stdoutMetric
  let stderr ← textOf metrics stderrMetric
  let exitCode ← exitOf metrics
  let exceptionMessage ← textOf metrics messageMetric
  let exceptionStack ← textOf metrics stackMetric
  let result : CommandResult :=
    ⟨stdout, stderr, exitCode, timedOut, exceptionMessage, exceptionStack⟩
  if result.isConclusive then .ok result
  else .error (.validation exitMetric "missing and no exception or timeout reported")

/-- The result, if the metrics speak of one. -/
def read (metrics : Dictionary Value) : Except Fault (Option CommandResult) :=
  if isReported metrics then (ofMetrics metrics).map some else .ok none

/-- A result as a record. -/
def dump (r : CommandResult) : Json :=
  .obj [("stdout", .ofText? r.stdout), ("stderr", .ofText? r.stderr),
    ("exit_code", .ofInt? r.exitCode), ("has_timed_out", .bool r.timedOut),
    ("exception_message", .ofText? r.exceptionMessage),
    ("exception_stack", .ofText? r.exceptionStack)]

end CommandResult

end DeviceRelay
