import DeviceRelay.Command
import DeviceRelay.Proofs.Fault

/-!
# Results of commands that are let through

A result that is let through says how the command ended. If the metrics are refused as a result, a rule is broken
at one of the six metrics, as long as they can be written out.

* `ofMetrics_eq_ok_iff`, `read_congr` — a result is read part by part, from the six metrics.
* `lawful_of_read` — what is let through.
* `failsOnly_read` — why metrics are refused.
-/

namespace DeviceRelay.CommandResult

/-! ### Metric by metric -/

theorem textOf_isOk_iff {metrics : Dictionary Value} {name : String} :
    (∃ words, textOf metrics name = .ok words) ↔
      ∀ v, metrics.get? name = some v → v = .null ∨ ∃ s, v = .text s := by
  rw [textOf]
  rcases metrics.get? name with _ | v
  · simp
  · cases v <;> simp

theorem textOf_eq_some_iff {metrics : Dictionary Value} {name s : String} :
    textOf metrics name = .ok (some s) ↔ metrics.get? name = some (.text s) := by
  rw [textOf]
  rcases metrics.get? name with _ | v
  · simp
  · cases v <;> simp

theorem exitOf_isOk_iff {metrics : Dictionary Value} :
    (∃ code, exitOf metrics = .ok code) ↔ ∀ v, metrics.get? exitMetric = some v → v = .null ∨ ∃ n, v = .int n := by
  rw [exitOf]
  rcases metrics.get? exitMetric with _ | v
  · simp
  · cases v <;> simp

theorem exitOf_eq_some_iff {metrics : Dictionary Value} {n : Int} :
    exitOf metrics = .ok (some n) ↔ metrics.get? exitMetric = some (.int n) := by
  rw [exitOf]
  rcases metrics.get? exitMetric with _ | v
  · simp
  · cases v <;> simp

/-! ### Results -/

/-- Each part of a result is what one metric says, and together they say how the command ended. -/
structure IsOf (r : CommandResult) (metrics : Dictionary Value) : Prop where
  timedOut : timeoutOf metrics = .ok r.timedOut
  stdout : textOf metrics stdoutMetric = .ok r.stdout
  stderr : textOf metrics stderrMetric = .ok r.stderr
  exitCode : exitOf metrics = .ok r.exitCode
  exceptionMessage : textOf metrics messageMetric = .ok r.exceptionMessage
  exceptionStack : textOf metrics stackMetric = .ok r.exceptionStack
  conclusive : r.isConclusive = true

theorem ofMetrics_eq_ok_iff {metrics : Dictionary Value} {r : CommandResult} :
    ofMetrics metrics = .ok r ↔ r.IsOf metrics := by
  constructor
  · intro h
    obtain ⟨timedOut, htimedOut, h⟩ := bind_eq_ok.mp h
    obtain ⟨stdout, hstdout, h⟩ := bind_eq_ok.mp h
    obtain ⟨stderr, hstderr, h⟩ := bind_eq_ok.mp h
    obtain ⟨exitCode, hexitCode, h⟩ := bind_eq_ok.mp h
    obtain ⟨message, hmessage, h⟩ := bind_eq_ok.mp h
    obtain ⟨stack, hstack, h⟩ := bind_eq_ok.mp h
    dsimp only at h
    split at h
    · next hconclusive =>
      obtain rfl := Except.ok.inj h
      exact ⟨htimedOut, hstdout, hstderr, hexitCode, hmessage, hstack, hconclusive⟩
    · cases h
  · intro h
    refine bind_eq_ok.mpr ⟨_, h.timedOut, bind_eq_ok.mpr ⟨_, h.stdout, bind_eq_ok.mpr ⟨_, h.stderr, ?_⟩⟩⟩
    refine bind_eq_ok.mpr ⟨_, h.exitCode, bind_eq_ok.mpr ⟨_, h.exceptionMessage, ?_⟩⟩
    exact bind_eq_ok.mpr ⟨_, h.exceptionStack, if_pos h.conclusive⟩

theorem read_eq_some_iff {metrics : Dictionary Value} {r : CommandResult} :
    read metrics = .ok (some r) ↔ isReported metrics = true ∧ r.IsOf metrics := by
  unfold read
  split
  · next hreported => simp [map_eq_ok, ofMetrics_eq_ok_iff, hreported]
  · next hreported => simp [hreported]

theorem read_eq_none_iff {metrics : Dictionary Value} : read metrics = .ok none ↔ isReported metrics = false := by
  unfold read
  split
  · next hreported => simp [map_eq_ok, hreported]
  · next hreported => simpa using hreported

/-- What every result keeps to: it says how the command ended. -/
structure Lawful (r : CommandResult) : Prop where
  conclusive : r.exitCode.isSome ∨ r.exceptionMessage.isSome ∨ r.timedOut = true

theorem lawful_of_read {metrics : Dictionary Value} {r : CommandResult} (h : read metrics = .ok (some r)) :
    r.Lawful :=
  ⟨by simpa [isConclusive, or_assoc] using (read_eq_some_iff.mp h).2.conclusive⟩

theorem isReported_iff {metrics : Dictionary Value} :
    isReported metrics = true ↔ ∃ name ∈ metricNames, (metrics.get? name).isSome = true :=
  List.any_eq_true

theorem ofMetrics_congr {m m' : Dictionary Value} (h : ∀ name ∈ metricNames, m'.get? name = m.get? name) :
    ofMetrics m' = ofMetrics m := by
  have htext : ∀ name ∈ metricNames, textOf m' name = textOf m name := by
    intro name hname
    rw [textOf, textOf, h name hname]
  rw [ofMetrics, ofMetrics, timeoutOf, timeoutOf, exitOf, exitOf, h timeoutMetric (by decide),
    h exitMetric (by decide), htext stdoutMetric (by decide), htext stderrMetric (by decide),
    htext messageMetric (by decide), htext stackMetric (by decide)]

/-- A result is read from the six metrics, whatever else there is. -/
theorem read_congr {m m' : Dictionary Value} (h : ∀ name ∈ metricNames, m'.get? name = m.get? name) :
    read m' = read m := by
  have hreported : isReported m' = isReported m := by
    rw [Bool.eq_iff_iff, isReported_iff, isReported_iff]
    refine exists_congr fun name => and_congr_right fun hname => ?_
    rw [h name hname]
  rw [read, read, hreported, ofMetrics_congr h]

/-! ### Refusals -/

theorem failsOnly_textOf {name : String} (h : name ∈ metricNames) (metrics : Dictionary Value) :
    FailsOnly (Fault.BreaksRule metricNames) (textOf metrics name) := by
  unfold textOf
  split
  · exact failsOnly_ok
  · exact failsOnly_ok
  · exact failsOnly_ok
  · exact failsOnly_error.mpr (Fault.breaksRule h)

theorem failsOnly_exitOf {metrics : Dictionary Value} (h : IsNameable metrics exitMetric) :
    FailsOnly (Fault.BreaksRule metricNames) (exitOf metrics) := by
  unfold exitOf
  split
  · exact failsOnly_ok
  · exact failsOnly_ok
  · exact failsOnly_ok
  · next hget => exact failsOnly_breaksRuleNaming (by decide) (h _ hget)

theorem failsOnly_timeoutOf {metrics : Dictionary Value} (h : IsNameable metrics timeoutMetric) :
    FailsOnly (Fault.BreaksRule metricNames) (timeoutOf metrics) := by
  unfold timeoutOf
  split
  · exact failsOnly_ok
  · exact failsOnly_ok
  · next hget => exact failsOnly_breaksRuleNaming (by decide) (h _ hget)

theorem failsOnly_read {metrics : Dictionary Value} (h : ∀ name, IsNameable metrics name) :
    FailsOnly (Fault.BreaksRule metricNames) (read metrics) := by
  unfold read
  split
  · refine failsOnly_map.mpr ?_
    refine failsOnly_bind.mpr ⟨failsOnly_timeoutOf (h _), fun timedOut _ => ?_⟩
    refine failsOnly_bind.mpr ⟨failsOnly_textOf (by decide) metrics, fun stdout _ => ?_⟩
    refine failsOnly_bind.mpr ⟨failsOnly_textOf (by decide) metrics, fun stderr _ => ?_⟩
    refine failsOnly_bind.mpr ⟨failsOnly_exitOf (h _), fun exitCode _ => ?_⟩
    refine failsOnly_bind.mpr ⟨failsOnly_textOf (by decide) metrics, fun message _ => ?_⟩
    refine failsOnly_bind.mpr ⟨failsOnly_textOf (by decide) metrics, fun stack _ => ?_⟩
    dsimp only
    split
    · exact failsOnly_ok
    · exact failsOnly_error.mpr (Fault.breaksRule (by decide))
  · exact failsOnly_ok

end DeviceRelay.CommandResult
