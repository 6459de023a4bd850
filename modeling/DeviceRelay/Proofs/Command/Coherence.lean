import DeviceRelay.Category
import DeviceRelay.Proofs.Command
import DeviceRelay.Proofs.Envelope
import DeviceRelay.Proofs.FirstFault

/-!
# Results of commands that cohere

Six metrics make up the result of a command. Each may be missing, and is of its kind otherwise; together they have to
say how the command ended:

    metric               kind             says how the command ended
    timedout             true or false    if it is true
    stdout, stderr       text or null
    exit.code            integer or null  if it is an integer
    exception.message    text or null     if it is a text
    exception.stack      text or null

The metrics are looked at in this order, and the first that is not of its kind is named. Only if there is none it
matters whether the command ended.

* `CommandResult.Coherent` — the metrics that are a result, said without the reader.
* `CommandResult.fault?_ofMetrics` — the steps of the reader in a row.
* `ReplyCategory.command_coherent` — no result, a result, or the metric that is at fault.
-/

namespace DeviceRelay

namespace CommandResult

/-- The kinds of values that the metrics of a result are. -/
inductive MetricKind where
  | text
  | integer
  | answer
  deriving Repr, DecidableEq

/-- Whether the value is of the kind. A text or an integer may be null; an answer is given or it is not. -/
def MetricKind.admits : MetricKind → Value → Bool
  | .text, .text _ | .text, .null => true
  | .integer, .int _ | .integer, .null => true
  | .answer, .bool _ => true
  | _, _ => false

/-- The metrics of a result with their kinds, in the order in which they are looked at. -/
def metricKinds : List (String × MetricKind) :=
  [(timeoutMetric, .answer), (stdoutMetric, .text), (stderrMetric, .text), (exitMetric, .integer),
    (messageMetric, .text), (stackMetric, .text)]

/-- Whether the metric is there and not of its kind. -/
def isMisfit (metrics : Dictionary Value) (metric : String × MetricKind) : Bool :=
  (metrics.get? metric.1).any fun v => !metric.2.admits v

/-- It is said how the command ended. -/
inductive SaysEnding (metrics : Dictionary Value) : Prop where
  | code (n : Int) (h : metrics.get? exitMetric = some (.int n))
  | failure (s : String) (h : metrics.get? messageMetric = some (.text s))
  | timeout (h : metrics.get? timeoutMetric = some (.bool true))

/-- The metrics are a result: each that is there is of its kind, and one says how the command ended. -/
structure Coherent (metrics : Dictionary Value) : Prop where
  fits : ∀ metric ∈ metricKinds, isMisfit metrics metric = false
  ending : SaysEnding metrics

/-- The metric that is to be named: the first that is not of its kind, or the exit code if all are of their kinds and
nothing says how the command ended. -/
inductive IsAtFault (metrics : Dictionary Value) : String → Prop where
  | misfit {name : String} {kind : MetricKind} (h : metricKinds.find? (isMisfit metrics) = some (name, kind)) :
    IsAtFault metrics name
  | noEnding (hfits : ∀ metric ∈ metricKinds, isMisfit metrics metric = false) (h : ¬SaysEnding metrics) :
    IsAtFault metrics exitMetric

/-- The parts of the result are the values of the metrics, and a part is missing where the metric is missing or null. -/
structure Holds (r : CommandResult) (metrics : Dictionary Value) : Prop where
  timedOut : r.timedOut = true ↔ metrics.get? timeoutMetric = some (.bool true)
  stdout : ∀ s, r.stdout = some s ↔ metrics.get? stdoutMetric = some (.text s)
  stderr : ∀ s, r.stderr = some s ↔ metrics.get? stderrMetric = some (.text s)
  exitCode : ∀ n, r.exitCode = some n ↔ metrics.get? exitMetric = some (.int n)
  exceptionMessage : ∀ s, r.exceptionMessage = some s ↔ metrics.get? messageMetric = some (.text s)
  exceptionStack : ∀ s, r.exceptionStack = some s ↔ metrics.get? stackMetric = some (.text s)

variable {metrics : Dictionary Value}

/-! ### What is read -/

theorem timeoutOf_eq_true_iff : timeoutOf metrics = .ok true ↔ metrics.get? timeoutMetric = some (.bool true) := by
  rw [timeoutOf]
  rcases metrics.get? timeoutMetric with _ | v
  · simp
  · cases v <;> simp

/-- A part that is read from the metrics is what they are read as. -/
theorem eq_iff_of_ok {α : Type} {x : Except Fault α} {a b : α} {p : Prop} (hx : x = .ok a) (h : x = .ok b ↔ p) :
    a = b ↔ p := by
  rw [← h, hx, Except.ok.injEq]

/-- What is read from the six metrics has their values. -/
theorem holds_of_read {r : CommandResult} (htimedOut : timeoutOf metrics = .ok r.timedOut)
    (hstdout : textOf metrics stdoutMetric = .ok r.stdout) (hstderr : textOf metrics stderrMetric = .ok r.stderr)
    (hexitCode : exitOf metrics = .ok r.exitCode) (hmessage : textOf metrics messageMetric = .ok r.exceptionMessage)
    (hstack : textOf metrics stackMetric = .ok r.exceptionStack) : r.Holds metrics where
  timedOut := eq_iff_of_ok htimedOut timeoutOf_eq_true_iff
  stdout _ := eq_iff_of_ok hstdout textOf_eq_some_iff
  stderr _ := eq_iff_of_ok hstderr textOf_eq_some_iff
  exitCode _ := eq_iff_of_ok hexitCode exitOf_eq_some_iff
  exceptionMessage _ := eq_iff_of_ok hmessage textOf_eq_some_iff
  exceptionStack _ := eq_iff_of_ok hstack textOf_eq_some_iff

theorem Holds.isConclusive_iff {r : CommandResult} (h : r.Holds metrics) :
    r.isConclusive = true ↔ SaysEnding metrics := by
  rw [isConclusive, Bool.or_eq_true, Bool.or_eq_true, Option.isSome_iff_exists, Option.isSome_iff_exists]
  constructor
  · rintro ((⟨n, hn⟩ | ⟨s, hs⟩) | htimedOut)
    · exact .code n ((h.exitCode n).mp hn)
    · exact .failure s ((h.exceptionMessage s).mp hs)
    · exact .timeout (h.timedOut.mp htimedOut)
  · rintro (⟨n, hn⟩ | ⟨s, hs⟩ | htimedOut)
    · exact .inl (.inl ⟨n, (h.exitCode n).mpr hn⟩)
    · exact .inl (.inr ⟨s, (h.exceptionMessage s).mpr hs⟩)
    · exact .inr (h.timedOut.mpr htimedOut)

theorem IsOf.holds {r : CommandResult} (h : r.IsOf metrics) : r.Holds metrics :=
  holds_of_read h.timedOut h.stdout h.stderr h.exitCode h.exceptionMessage h.exceptionStack

/-! ### What is refused -/

/-- What is said of a metric whose value is not of the kind. -/
def MetricKind.complaint : MetricKind → String → Value → Fault
  | .text, name, v => .validation name ("expected a string, got " ++ v.kindName)
  | .integer, name, v => .naming v (.validation name ("expected an integer, got " ++ v.shown))
  | .answer, name, v => .naming v (.validation name ("expected a boolean, got " ++ v.shown))

/-- What a metric is refused for, looked at on its own. -/
def refusal? (metrics : Dictionary Value) (metric : String × MetricKind) : Option Fault :=
  (metrics.get? metric.1).bind fun v => if metric.2.admits v then none else some (metric.2.complaint metric.1 v)

theorem fault?_textOf (metrics : Dictionary Value) (name : String) :
    fault? (textOf metrics name) = refusal? metrics (name, .text) := by
  rw [textOf, refusal?]
  rcases metrics.get? name with _ | v
  · rfl
  · cases v <;> rfl

theorem fault?_exitOf (metrics : Dictionary Value) :
    fault? (exitOf metrics) = refusal? metrics (exitMetric, .integer) := by
  rw [exitOf, refusal?]
  rcases metrics.get? exitMetric with _ | v
  · rfl
  · cases v <;> rfl

theorem fault?_timeoutOf (metrics : Dictionary Value) :
    fault? (timeoutOf metrics) = refusal? metrics (timeoutMetric, .answer) := by
  rw [timeoutOf, refusal?]
  rcases metrics.get? timeoutMetric with _ | v
  · rfl
  · cases v <;> rfl

/-- A metric is refused exactly if it is not of its kind. -/
theorem refusal?_eq_none_iff {metric : String × MetricKind} :
    refusal? metrics metric = none ↔ isMisfit metrics metric = false := by
  rw [refusal?, isMisfit]
  rcases metrics.get? metric.1 with _ | v
  · simp
  · cases hv : metric.2.admits v <;> simp [hv]

/-- A metric that is refused is named, if it can be written out. -/
theorem field_of_refusal? {metric : String × MetricKind} (hnameable : IsNameable metrics metric.1) {fault : Fault}
    (h : refusal? metrics metric = some fault) : ∃ reason, fault = .validation metric.1 reason := by
  obtain ⟨v, hv, h⟩ := Option.bind_eq_some_iff.mp h
  have hwritable := hnameable v hv
  rw [Option.ite_none_left_eq_some, Option.some.injEq] at h
  obtain ⟨-, rfl⟩ := h
  cases metric.2 with
  | text => exact ⟨_, rfl⟩
  | integer => exact ⟨_, if_pos hwritable⟩
  | answer => exact ⟨_, if_pos hwritable⟩

/-- What is said if nothing tells how the command ended. -/
def endless : Fault := .validation exitMetric "missing and no exception or timeout reported"

/-- The metrics are looked at one by one, and behind them comes the question how the command ended. -/
theorem fault?_ofMetrics (metrics : Dictionary Value) :
    ∃ last, (SaysEnding metrics ∧ last = none ∨ ¬SaysEnding metrics ∧ last = some endless) ∧
      fault? (ofMetrics metrics) = firstFault (metricKinds.map (refusal? metrics) ++ [last]) := by
  obtain ⟨last, hlast⟩ :
      ∃ last, SaysEnding metrics ∧ last = none ∨ ¬SaysEnding metrics ∧ last = some endless := by
    by_cases hending : SaysEnding metrics
    · exact ⟨none, .inl ⟨hending, rfl⟩⟩
    · exact ⟨some endless, .inr ⟨hending, rfl⟩⟩
  refine ⟨last, hlast, ?_⟩
  simp only [metricKinds, List.map_cons, List.map_nil, List.cons_append, List.nil_append, ← fault?_textOf,
    ← fault?_exitOf, ← fault?_timeoutOf]
  refine fault?_bind fun timedOut htimedOut => fault?_bind fun stdout hstdout => fault?_bind fun stderr hstderr => ?_
  refine fault?_bind fun exitCode hexitCode => fault?_bind fun message hmessage => fault?_bind fun stack hstack => ?_
  have hholds : Holds ⟨stdout, stderr, exitCode, timedOut, message, stack⟩ metrics :=
    holds_of_read htimedOut hstdout hstderr hexitCode hmessage hstack
  rw [firstFault_singleton]
  rcases hlast with ⟨hending, rfl⟩ | ⟨hending, rfl⟩
  · rw [if_pos (hholds.isConclusive_iff.mpr hending)]
    rfl
  · rw [if_neg (mt hholds.isConclusive_iff.mp hending)]
    rfl

/-- Metrics that cohere are a result, and no others are. -/
theorem ofMetrics_isOk_iff : (∃ r, ofMetrics metrics = .ok r) ↔ Coherent metrics := by
  obtain ⟨last, hlast, hsteps⟩ := fault?_ofMetrics metrics
  rw [← fault?_eq_none_iff, hsteps, firstFault_eq_none_iff, List.forall_mem_append, List.forall_mem_map,
    List.forall_mem_singleton]
  simp only [refusal?_eq_none_iff]
  rcases hlast with ⟨hending, rfl⟩ | ⟨hending, rfl⟩
  · exact ⟨fun h => ⟨h.1, hending⟩, fun h => ⟨h.fits, rfl⟩⟩
  · exact iff_of_false (fun h => nomatch h.2) fun h => hending h.ending

/-- Metrics that do not cohere are refused, with the metric that is at fault. -/
theorem isAtFault_of_not_coherent (hnameable : ∀ metric ∈ metricKinds, IsNameable metrics metric.1)
    (h : ¬Coherent metrics) :
    ∃ field reason, ofMetrics metrics = .error (.validation field reason) ∧ IsAtFault metrics field := by
  obtain ⟨last, hlast, hsteps⟩ := fault?_ofMetrics metrics
  cases hfind : metricKinds.find? (isMisfit metrics) with
  | none =>
    have hfits : ∀ metric ∈ metricKinds, isMisfit metrics metric = false := by
      simpa only [Bool.not_eq_true] using List.find?_eq_none.mp hfind
    have hending : ¬SaysEnding metrics := fun hending => h ⟨hfits, hending⟩
    obtain ⟨-, rfl⟩ := hlast.resolve_left fun hlast => hending hlast.1
    have hfirst : firstFault (metricKinds.map (refusal? metrics) ++ [some endless]) = some endless := by
      refine firstFault_eq_some_iff.mpr ⟨_, [], rfl, List.forall_mem_map.mpr fun metric hmetric => ?_⟩
      exact refusal?_eq_none_iff.mpr (hfits metric hmetric)
    exact ⟨_, _, fault?_eq_some_iff.mp (hsteps.trans hfirst), .noEnding hfits hending⟩
  | some metric =>
    obtain ⟨hmisfit, front, back, heq, hfront⟩ := List.find?_eq_some_iff_append.mp hfind
    obtain ⟨fault, hfault⟩ : ∃ fault, refusal? metrics metric = some fault := by
      rw [← Option.ne_none_iff_exists', Ne, refusal?_eq_none_iff, hmisfit]
      exact Bool.noConfusion
    obtain ⟨reason, rfl⟩ := field_of_refusal? (hnameable metric (List.mem_of_find?_eq_some hfind)) hfault
    have hfirst : firstFault (metricKinds.map (refusal? metrics) ++ [last]) =
        some (.validation metric.1 reason) := by
      rw [firstFault_eq_some_iff, heq, List.map_append, List.map_cons, hfault, List.append_assoc, List.cons_append]
      refine ⟨_, _, rfl, List.forall_mem_map.mpr fun other hother => refusal?_eq_none_iff.mpr ?_⟩
      simpa using hfront other hother
    exact ⟨_, _, fault?_eq_some_iff.mp (hsteps.trans hfirst), .misfit hfind⟩

end CommandResult

namespace ReplyCategory

open CommandResult

variable {e : Envelope}

theorem content_of_reported (h : isReported e.metrics = true) :
    command.content e = (ofMetrics e.metrics).map fun r => .command (some r) := by
  show (CommandResult.read e.metrics).map ReplyContent.command = _
  rw [CommandResult.read, if_pos h, map_map]

/-- Of the content of a command, what there is to read is its result. -/
theorem content_command_eq_ok_iff {result : Option CommandResult} :
    command.content e = .ok (.command result) ↔ CommandResult.read e.metrics = .ok result := by
  refine map_eq_ok.trans ⟨?_, fun h => ⟨result, h, rfl⟩⟩
  rintro ⟨_, h, ⟨⟩⟩
  exact h

/-- A command has no result exactly if none of its metrics is there. Otherwise it has one exactly if they cohere, with
their values; and if they do not cohere, it is refused for the metric that is at fault. -/
theorem command_coherent (e : Envelope) (hnameable : ∀ metric ∈ metricKinds, IsNameable e.metrics metric.1) :
    (command.content e = .ok (.command none) ↔ ∀ name ∈ metricNames, e.metrics.get? name = none) ∧
      ((∃ name ∈ metricNames, (e.metrics.get? name).isSome = true) →
        ((∃ content, command.content e = .ok content) ↔ Coherent e.metrics) ∧
        (∀ content, command.content e = .ok content → ∃ r, content = .command (some r) ∧ r.Holds e.metrics) ∧
        (¬Coherent e.metrics → ∃ field reason,
          command.content e = .error (.validation field reason) ∧ IsAtFault e.metrics field)) := by
  constructor
  · rw [content_command_eq_ok_iff, read_eq_none_iff, ← Bool.not_eq_true, isReported_iff]
    simp
  · intro hreported
    rw [content_of_reported (isReported_iff.mpr hreported)]
    refine ⟨?_, ?_, ?_⟩
    · rw [← ofMetrics_isOk_iff, ← fault?_eq_none_iff, fault?_map, fault?_eq_none_iff]
    · intro content h
      obtain ⟨r, hr, rfl⟩ := map_eq_ok.mp h
      exact ⟨r, rfl, (ofMetrics_eq_ok_iff.mp hr).holds⟩
    · intro h
      obtain ⟨field, reason, hrefused, hfault⟩ := isAtFault_of_not_coherent hnameable h
      rw [hrefused]
      exact ⟨field, reason, rfl, hfault⟩

/-- A command that took too long, with a number for a text and a truth value for its exit code. -/
def muddledCommand : Envelope :=
  { descriptor := Envelope.framedDescriptor, channel := Envelope.framedChannel, code := .accepted
    exceptionMessage := none, exceptionStack := none, raw := Envelope.framed none .empty
    metrics := .ofList [(exitMetric, .bool true), (stderrMetric, .int 5), (timeoutMetric, .bool true)] }

/-- The text is looked at first. -/
theorem command_coherent_muddled :
    ∃ reason, command.content muddledCommand = .error (.validation stderrMetric reason) := by
  have hnameable : ∀ metric ∈ metricKinds, IsNameable muddledCommand.metrics metric.1 := by
    have hall : (metricKinds.all fun metric =>
        (muddledCommand.metrics.get? metric.1).all Value.isWritable) = true := by decide +kernel
    intro metric hmetric v hv
    simpa [hv] using List.all_eq_true.mp hall metric hmetric
  have hfirst : metricKinds.find? (isMisfit muddledCommand.metrics) = some (stderrMetric, .text) := by decide +kernel
  have hmisfit : isMisfit muddledCommand.metrics (stderrMetric, .text) = true := List.find?_some hfirst
  have hmem : (stderrMetric, MetricKind.text) ∈ metricKinds := List.mem_of_find?_eq_some hfirst
  have hnot : ¬Coherent muddledCommand.metrics := fun h => Bool.noConfusion ((h.fits _ hmem).symm.trans hmisfit)
  obtain ⟨-, hreported⟩ := command_coherent muddledCommand hnameable
  obtain ⟨-, -, hrefused⟩ := hreported ⟨stderrMetric, by decide, by decide +kernel⟩
  obtain ⟨field, reason, hcontent, hfault⟩ := hrefused hnot
  cases hfault with
  | misfit h =>
    obtain ⟨rfl, -⟩ := Prod.mk.inj (Option.some.inj (hfirst.symm.trans h))
    exact ⟨reason, hcontent⟩
  | noEnding hfits => exact absurd hmisfit (by simp [hfits _ hmem])

end ReplyCategory

end DeviceRelay
