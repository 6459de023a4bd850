import DeviceRelay.Proofs.Command
import DeviceRelay.Proofs.Dictionary
import DeviceRelay.Proofs.Separation

/-!
# Metrics that are null

A reply is read from nine metrics. To most of their readers a null is as good as nothing. Two questions about a
command are asked in another way: whether there is a result is asked of the names alone, and whether the command took
too long has to be answered by yes or no.

    what failed, and where; output; exit code   null counts as nothing
    whether there is a result                   null counts as a metric
    whether it took too long                    null is refused

* `Dictionary.get?_withoutNulls` — what is found when the nulls are left out.
* `CommandResult.NullsDecide` — the metrics of a command to which this makes a difference.
* `CommandResult.toOption_read_withoutNulls`, `CommandResult.read_of_nullsDecide` — all others, and these.
* `TranslatorTable.withoutNulls_decides` — whole replies.
-/

namespace DeviceRelay

/-- Whether the value is null. -/
def Value.isNull : Value → Bool
  | .null => true
  | _ => false

/-- The entries but those of the given names that are null. -/
def Dictionary.withoutNulls (names : List String) (d : Dictionary Value) : Dictionary Value :=
  ⟨d.entries.filter fun entry => !(names.contains entry.1 && entry.2.isNull),
    List.Sublist.nodup (List.filter_sublist.map Prod.fst) d.distinct⟩

namespace Dictionary

variable {names : List String} {d : Dictionary Value} {name : String}

theorem get?_withoutNulls (h : name ∈ names) :
    (d.withoutNulls names).get? name = (d.get? name).filter fun v => !v.isNull := by
  rw [get?, withoutNulls, firstEntry?_filter _ d.distinct]
  simp [h, get?]

/-- A name keeps its value, or loses a null. -/
theorem get?_withoutNulls_cases (h : name ∈ names) :
    (d.withoutNulls names).get? name = d.get? name ∨
      d.get? name = some .null ∧ (d.withoutNulls names).get? name = none := by
  rw [get?_withoutNulls h]
  rcases d.get? name with _ | v
  · exact .inl rfl
  · cases v with
    | null => exact .inr ⟨rfl, rfl⟩
    | _ => exact .inl rfl

theorem filterNames_withoutNulls (p : String → Bool) :
    (d.withoutNulls names).filterNames p = (d.filterNames p).withoutNulls names :=
  Dictionary.ext (by simp [filterNames, withoutNulls, List.filter_filter, Bool.and_comm])

end Dictionary

/-! ### Results of commands -/

namespace CommandResult

variable {names : List String} {metrics : Dictionary Value}

/-- Nulls among the metrics of a command that make a difference: either there is nothing else, or it is not said
whether the command took too long, while the other metrics are a result. -/
inductive NullsDecide (metrics : Dictionary Value) : Prop where
  | alone (hsome : ∃ name ∈ metricNames, metrics.get? name = some .null)
      (hall : ∀ name ∈ metricNames, ∀ v, metrics.get? name = some v → v = .null)
  | timeout (htimeout : metrics.get? timeoutMetric = some .null)
      (htexts : ∀ name ∈ [stdoutMetric, stderrMetric, messageMetric, stackMetric], ∀ v,
        metrics.get? name = some v → v = .null ∨ ∃ s, v = .text s)
      (hexit : ∀ v, metrics.get? exitMetric = some v → v = .null ∨ ∃ n, v = .int n)
      (hending : (∃ n, metrics.get? exitMetric = some (.int n)) ∨ ∃ s, metrics.get? messageMetric = some (.text s))

theorem textOf_withoutNulls {name : String} (h : name ∈ names) :
    textOf (metrics.withoutNulls names) name = textOf metrics name := by
  rcases Dictionary.get?_withoutNulls_cases h with hkept | ⟨hnull, hnone⟩
  · rw [textOf, textOf, hkept]
  · rw [textOf, textOf, hnull, hnone]

theorem exitOf_withoutNulls (h : exitMetric ∈ names) : exitOf (metrics.withoutNulls names) = exitOf metrics := by
  rcases Dictionary.get?_withoutNulls_cases h with hkept | ⟨hnull, hnone⟩
  · rw [exitOf, exitOf, hkept]
  · rw [exitOf, exitOf, hnull, hnone]

theorem timeoutOf_withoutNulls (h : timeoutMetric ∈ names) (hnull : metrics.get? timeoutMetric ≠ some .null) :
    timeoutOf (metrics.withoutNulls names) = timeoutOf metrics := by
  rcases Dictionary.get?_withoutNulls_cases h with hkept | ⟨hlost, -⟩
  · rw [timeoutOf, timeoutOf, hkept]
  · exact absurd hlost hnull

/-- Null is no answer to the question whether the command took too long. -/
theorem timeoutOf_null (h : metrics.get? timeoutMetric = some .null) :
    timeoutOf metrics = .error (.validation timeoutMetric "expected a boolean, got None") := by
  rw [timeoutOf, h]
  rfl

theorem isReported_of_null (h : metrics.get? timeoutMetric = some .null) : isReported metrics = true :=
  isReported_iff.mpr ⟨timeoutMetric, by decide, by rw [h]; rfl⟩

theorem read_of_null (h : metrics.get? timeoutMetric = some .null) :
    read metrics = .error (.validation timeoutMetric "expected a boolean, got None") := by
  rw [read, if_pos (isReported_of_null h), ofMetrics, timeoutOf_null h]
  rfl

/-- What metrics are refused for if nulls decide. -/
def nullFaults : List Fault :=
  [.validation timeoutMetric "expected a boolean, got None",
    .validation exitMetric "missing and no exception or timeout reported"]

section Named

variable (hnames : metricNames ⊆ names)

include hnames

theorem isReported_withoutNulls_iff :
    isReported (metrics.withoutNulls names) = true ↔
      ∃ name ∈ metricNames, ∃ v, metrics.get? name = some v ∧ v ≠ .null := by
  rw [isReported_iff]
  refine exists_congr fun name => and_congr_right fun hname => ?_
  rw [Dictionary.get?_withoutNulls (hnames hname)]
  rcases metrics.get? name with _ | v
  · simp
  · cases v <;> simp [Option.filter, Value.isNull]

/-- A result needs no null that is not about the time. -/
theorem ofMetrics_withoutNulls (hnull : metrics.get? timeoutMetric ≠ some .null) :
    ofMetrics (metrics.withoutNulls names) = ofMetrics metrics := by
  have htext : ∀ name ∈ metricNames, textOf (metrics.withoutNulls names) name = textOf metrics name :=
    fun name hname => textOf_withoutNulls (hnames hname)
  rw [ofMetrics, ofMetrics, timeoutOf_withoutNulls (hnames (by decide)) hnull,
    exitOf_withoutNulls (hnames (by decide)), htext stdoutMetric (by decide), htext stderrMetric (by decide),
    htext messageMetric (by decide), htext stackMetric (by decide)]

/-- Once it is not asked whether the command took too long, the metrics are a result if each is of its kind and
there is an exit code or a failure. -/
theorem exists_isOf_withoutNulls_iff (htimeout : metrics.get? timeoutMetric = some .null) :
    (∃ r : CommandResult, r.IsOf (metrics.withoutNulls names)) ↔
      (∀ name ∈ [stdoutMetric, stderrMetric, messageMetric, stackMetric], ∀ v,
          metrics.get? name = some v → v = .null ∨ ∃ s, v = .text s) ∧
        (∀ v, metrics.get? exitMetric = some v → v = .null ∨ ∃ n, v = .int n) ∧
        ((∃ n, metrics.get? exitMetric = some (.int n)) ∨ ∃ s, metrics.get? messageMetric = some (.text s)) := by
  have htext : ∀ name ∈ metricNames, textOf (metrics.withoutNulls names) name = textOf metrics name :=
    fun name hname => textOf_withoutNulls (hnames hname)
  have hexit : exitOf (metrics.withoutNulls names) = exitOf metrics := exitOf_withoutNulls (hnames (by decide))
  have htimedOut : timeoutOf (metrics.withoutNulls names) = .ok false := by
    rw [timeoutOf, Dictionary.get?_withoutNulls (hnames (by decide)), htimeout]
    rfl
  simp only [List.forall_mem_cons, List.not_mem_nil, false_implies, implies_true, and_true, ← textOf_isOk_iff,
    ← exitOf_isOk_iff, ← exitOf_eq_some_iff, ← textOf_eq_some_iff]
  constructor
  · rintro ⟨r, h⟩
    have hstdout := (htext stdoutMetric (by decide)).symm.trans h.stdout
    have hstderr := (htext stderrMetric (by decide)).symm.trans h.stderr
    have hmessage := (htext messageMetric (by decide)).symm.trans h.exceptionMessage
    have hstack := (htext stackMetric (by decide)).symm.trans h.exceptionStack
    have hcode := hexit.symm.trans h.exitCode
    refine ⟨⟨⟨_, hstdout⟩, ⟨_, hstderr⟩, ⟨_, hmessage⟩, ⟨_, hstack⟩⟩, ⟨_, hcode⟩, ?_⟩
    have hfalse : r.timedOut = false := Except.ok.inj (h.timedOut.symm.trans htimedOut)
    have hending := h.conclusive
    rw [isConclusive, hfalse, Bool.or_false, Bool.or_eq_true, Option.isSome_iff_exists,
      Option.isSome_iff_exists] at hending
    rcases hending with ⟨n, hn⟩ | ⟨words, hwords⟩
    · exact .inl ⟨n, hn ▸ hcode⟩
    · exact .inr ⟨words, hwords ▸ hmessage⟩
  · rintro ⟨⟨⟨stdout, hstdout⟩, ⟨stderr, hstderr⟩, ⟨message, hmessage⟩, ⟨stack, hstack⟩⟩, ⟨code, hcode⟩, hending⟩
    refine ⟨⟨stdout, stderr, code, false, message, stack⟩, htimedOut, (htext _ (by decide)).trans hstdout,
      (htext _ (by decide)).trans hstderr, hexit.trans hcode, (htext _ (by decide)).trans hmessage,
      (htext _ (by decide)).trans hstack, ?_⟩
    rcases hending with ⟨n, hn⟩ | ⟨words, hwords⟩
    · obtain rfl := Except.ok.inj (hcode.symm.trans hn)
      rfl
    · obtain rfl := Except.ok.inj (hmessage.symm.trans hwords)
      simp [isConclusive]

/-- If a result is reported with the nulls only, they are alone. -/
theorem nullsDecide_of_isReported (h : isReported metrics = true)
    (hless : isReported (metrics.withoutNulls names) ≠ true) : NullsDecide metrics := by
  have hall : ∀ name ∈ metricNames, ∀ v, metrics.get? name = some v → v = .null := by
    intro name hname v hv
    refine Classical.byContradiction fun hne => ?_
    exact hless ((isReported_withoutNulls_iff hnames).mpr ⟨name, hname, v, hv, hne⟩)
  obtain ⟨name, hname, hsome⟩ := isReported_iff.mp h
  obtain ⟨v, hv⟩ := Option.isSome_iff_exists.mp hsome
  exact .alone ⟨name, hname, hall name hname v hv ▸ hv⟩ hall

/-- Nulls that do not decide make no difference to the result, nor to whether there is one. -/
theorem toOption_read_withoutNulls (h : ¬NullsDecide metrics) :
    (read (metrics.withoutNulls names)).toOption = (read metrics).toOption := by
  by_cases htimeout : metrics.get? timeoutMetric = some .null
  · -- refused with the null, and without it as well
    rw [read_of_null htimeout]
    cases hread : read (metrics.withoutNulls names) with
    | error fault => rfl
    | ok result =>
      refine absurd ?_ h
      cases result with
      | none =>
        have hless := read_eq_none_iff.mp hread
        exact nullsDecide_of_isReported hnames (isReported_of_null htimeout) (by simp [hless])
      | some r =>
        obtain ⟨htexts, hexit, hending⟩ :=
          (exists_isOf_withoutNulls_iff hnames htimeout).mp ⟨r, (read_eq_some_iff.mp hread).2⟩
        exact .timeout htimeout htexts hexit hending
  · have hreported : isReported (metrics.withoutNulls names) = isReported metrics := by
      rw [Bool.eq_iff_iff]
      constructor
      · intro hless
        obtain ⟨name, hname, v, hv, -⟩ := (isReported_withoutNulls_iff hnames).mp hless
        exact isReported_iff.mpr ⟨name, hname, by rw [hv]; rfl⟩
      · intro hreported
        exact Classical.byContradiction fun hless => h (nullsDecide_of_isReported hnames hreported hless)
    rw [read, read, hreported, ofMetrics_withoutNulls hnames htimeout]

/-- Nulls that decide are refused, and without them nothing is. -/
theorem read_of_nullsDecide (h : NullsDecide metrics) :
    (∃ fault ∈ nullFaults, read metrics = .error fault) ∧
      ∃ result, read (metrics.withoutNulls names) = .ok result := by
  cases h with
  | alone hsome hall =>
    have hnone : ∀ name ∈ metricNames, (metrics.withoutNulls names).get? name = none := by
      intro name hname
      rw [Dictionary.get?_withoutNulls (hnames hname)]
      cases hv : metrics.get? name with
      | none => rfl
      | some v =>
        obtain rfl := hall name hname v hv
        rfl
    have hempty : ∀ name ∈ metricNames, (metrics.withoutNulls names).get? name = Dictionary.empty.get? name := hnone
    refine ⟨?_, none, read_congr hempty⟩
    by_cases htimeout : metrics.get? timeoutMetric = some .null
    · exact ⟨_, List.mem_cons_self, read_of_null htimeout⟩
    · obtain ⟨name, hname, hnull⟩ := hsome
      refine ⟨_, List.mem_cons_of_mem _ List.mem_cons_self, ?_⟩
      rw [read, if_pos (isReported_iff.mpr ⟨name, hname, by rw [hnull]; rfl⟩),
        ← ofMetrics_withoutNulls hnames htimeout, ofMetrics_congr hempty]
      rfl
  | timeout htimeout htexts hexit hending =>
    refine ⟨⟨_, List.mem_cons_self, read_of_null htimeout⟩, ?_⟩
    obtain ⟨r, hr⟩ := (exists_isOf_withoutNulls_iff hnames htimeout).mpr ⟨htexts, hexit, hending⟩
    refine ⟨some r, read_eq_some_iff.mpr ⟨(isReported_withoutNulls_iff hnames).mpr ?_, hr⟩⟩
    rcases hending with ⟨n, hn⟩ | ⟨s, hs⟩
    · exact ⟨exitMetric, by decide, _, hn, Value.noConfusion⟩
    · exact ⟨messageMetric, by decide, _, hs, Value.noConfusion⟩

end Named

end CommandResult

/-! ### Replies -/

theorem ResponseCode.read_withoutNulls {names : List String} (h : metric ∈ names) (metrics : Dictionary Value) :
    read (metrics.withoutNulls names) = read metrics := by
  rcases Dictionary.get?_withoutNulls_cases h with hkept | ⟨hnull, hnone⟩
  · rw [read, read, hkept]
  · rw [read, read, hnull, hnone]

theorem Envelope.wordsOf_withoutNulls {names : List String} {name : String} (h : name ∈ names)
    (metrics : Dictionary Value) : wordsOf (metrics.withoutNulls names) name = wordsOf metrics name := by
  rcases Dictionary.get?_withoutNulls_cases h with hkept | ⟨hnull, hnone⟩
  · rw [wordsOf, wordsOf, hkept]
  · rw [wordsOf, wordsOf, hnull, hnone]

/-- The metrics that replies are read from. -/
def interpretedMetrics : List String := Envelope.ownMetrics ++ CommandResult.metricNames

/-- The message without those of them that are null. -/
def RawMessage.withoutNulls (raw : RawMessage) : RawMessage :=
  { raw with metrics := raw.metrics.withoutNulls interpretedMetrics }

namespace Envelope

/-- The envelope of the message without them. -/
def withoutNulls (e : Envelope) : Envelope :=
  { e with raw := e.raw.withoutNulls, metrics := e.metrics.withoutNulls interpretedMetrics }

/-- To the envelope a null is as good as nothing. -/
theorem read_withoutNulls (raw : RawMessage) (registry : Registry) :
    read raw.withoutNulls registry = (read raw registry).map withoutNulls := by
  have hread := read_congr (show raw.withoutNulls.connectorName = raw.connectorName from rfl) rfl
    (ResponseCode.read_withoutNulls (by decide) raw.metrics)
    (fun name hname => wordsOf_withoutNulls (List.mem_append_left _ hname) raw.metrics) registry
  rw [hread]
  cases h : read raw registry with
  | error fault => rfl
  | ok e =>
    have his := read_eq_ok_iff.mp h
    simp only [Except.map, withoutNulls, his.raw, his.metrics, RawMessage.withoutNulls,
      Dictionary.filterNames_withoutNulls]

theorem read_withoutNulls_eq {raw : RawMessage} {registry : Registry} {e : Envelope}
    (h : read raw registry = .ok e) : read raw.withoutNulls registry = .ok e.withoutNulls := by
  rw [read_withoutNulls, h]
  rfl

/-- The result of a command is read from metrics that the envelope leaves over. -/
theorem command_read {raw : RawMessage} {registry : Registry} {e : Envelope} (h : read raw registry = .ok e) :
    CommandResult.read e.metrics = CommandResult.read raw.metrics := by
  refine CommandResult.read_congr fun name hname => ?_
  have hother : ∀ name ∈ CommandResult.metricNames, (!ownMetrics.contains name) = true := by decide
  rw [(read_eq_ok_iff.mp h).metrics, Dictionary.get?_filterNames, if_pos (hother name hname)]

end Envelope

/-- What a reply says about how its request went. -/
structure Verdict where
  code : ResponseCode
  exceptionMessage : Option String
  exceptionStack : Option String
  command : Option CommandResult
  deriving Repr, DecidableEq

/-- The result of a command, if the content is one. -/
def ReplyContent.command? : ReplyContent → Option CommandResult
  | .command result => result
  | _ => none

/-- The verdict of a message, if it is a reply. -/
def Message.verdict? : Message → Option Verdict
  | .reply _ _ code remarks content =>
    some ⟨code, remarks.exceptionMessage, remarks.exceptionStack, content.command?⟩
  | .notification _ _ _ _ => none

/-- The verdict of the replies with an envelope. -/
def Envelope.verdict (e : Envelope) (content : ReplyContent) : Verdict :=
  ⟨e.code, e.exceptionMessage, e.exceptionStack, content.command?⟩

namespace TranslatorTable

variable {registry : Registry} {raw : RawMessage}

/-- What is let through has an envelope and a content, and its verdict is read off them. -/
theorem verdict?_translate (registry : Registry) (c : ReplyCategory) (raw : RawMessage) :
    ((full registry).translate c.tag raw).toOption.map Message.verdict? =
      (Envelope.read raw registry).toOption.bind fun e =>
        (c.content e).toOption.map fun content => some (e.verdict content) := by
  rw [translate_full_reply, Category.message]
  cases Envelope.read raw registry with
  | error fault => rfl
  | ok e =>
    show (((c.content e).bind fun content => .ok (Category.replyMessage c e content)).mapError
      fun cause => Failure.rejected cause raw).toOption.map Message.verdict? =
        (c.content e).toOption.map fun content => some (e.verdict content)
    cases c.content e <;> rfl

/-- Content comes from the body, which has no metrics, or is the result of a command. -/
theorem toOption_content_withoutNulls {e : Envelope} (h : Envelope.read raw registry = .ok e) {c : ReplyCategory}
    (hc : ¬(c = .command ∧ CommandResult.NullsDecide raw.metrics)) :
    (c.content e.withoutNulls).toOption = (c.content e).toOption := by
  by_cases hcommand : c = .command
  · subst hcommand
    show ((CommandResult.read e.withoutNulls.metrics).map ReplyContent.command).toOption =
      ((CommandResult.read e.metrics).map ReplyContent.command).toOption
    have hresult : (CommandResult.read raw.withoutNulls.metrics).toOption =
        (CommandResult.read raw.metrics).toOption :=
      CommandResult.toOption_read_withoutNulls (List.subset_append_right _ _) fun hnulls => hc ⟨rfl, hnulls⟩
    rw [toOption_map, toOption_map, Envelope.command_read h, Envelope.command_read (Envelope.read_withoutNulls_eq h),
      hresult]
  · rw [ReplyCategory.content_congr hcommand (show e.withoutNulls.raw.body = e.raw.body from rfl) rfl]

/-- The result of a command that is refused for its nulls, and is let through without them. -/
theorem command_of_nullsDecide {e : Envelope} (h : Envelope.read raw registry = .ok e)
    (hnulls : CommandResult.NullsDecide raw.metrics) :
    (∃ fault ∈ CommandResult.nullFaults,
        (full registry).translate ReplyCategory.command.tag raw = .error (.rejected fault raw)) ∧
      ∃ m, (full registry).translate ReplyCategory.command.tag raw.withoutNulls = .ok m := by
  obtain ⟨⟨fault, hfault, hread⟩, result, hless⟩ :=
    CommandResult.read_of_nullsDecide (List.subset_append_right Envelope.ownMetrics _) hnulls
  refine ⟨⟨fault, hfault, ?_⟩, ?_⟩
  · have hcontent : ReplyCategory.command.content e = .error fault := by
      rw [ReplyCategory.content, Envelope.command_read h, hread]
      rfl
    rw [translate_full_reply, Category.message, h]
    show ((ReplyCategory.command.content e).bind _).mapError _ = _
    rw [hcontent]
    rfl
  · have hcontent : ReplyCategory.command.content e.withoutNulls = .ok (.command result) := by
      rw [ReplyCategory.content, Envelope.command_read (Envelope.read_withoutNulls_eq h)]
      exact congrArg (Except.map ReplyContent.command) hless
    refine ⟨Category.replyMessage .command e.withoutNulls (.command result), ?_⟩
    rw [translate_full_reply, mapError_eq_ok, Category.message, Envelope.read_withoutNulls_eq h]
    show (ReplyCategory.command.content e.withoutNulls).bind _ = _
    rw [hcontent]
    rfl

/-- A reply means the same with its nulls and without them: it is let through with one and the same verdict, or is
rejected. Only commands whose nulls decide are an exception, and they are rejected for them. -/
theorem withoutNulls_decides (registry : Registry) (c : ReplyCategory) (raw : RawMessage) :
    (((full registry).translate c.tag raw.withoutNulls).toOption.map Message.verdict? =
        ((full registry).translate c.tag raw).toOption.map Message.verdict? ↔
      ¬(c = .command ∧ (∃ e, Envelope.read raw registry = .ok e) ∧ CommandResult.NullsDecide raw.metrics)) ∧
    (c = .command → (∃ e, Envelope.read raw registry = .ok e) → CommandResult.NullsDecide raw.metrics →
      (∃ fault ∈ CommandResult.nullFaults, (full registry).translate c.tag raw = .error (.rejected fault raw)) ∧
        ∃ m, (full registry).translate c.tag raw.withoutNulls = .ok m) := by
  refine ⟨⟨?_, ?_⟩, ?_⟩
  · rintro hsame ⟨rfl, ⟨e, he⟩, hnulls⟩
    obtain ⟨⟨fault, -, hrejected⟩, m, hm⟩ := command_of_nullsDecide he hnulls
    rw [hrejected, hm] at hsame
    cases hsame
  · intro hnot
    rw [verdict?_translate, verdict?_translate]
    cases he : Envelope.read raw registry with
    | error fault =>
      rw [Envelope.read_withoutNulls, he]
      rfl
    | ok e =>
      rw [Envelope.read_withoutNulls_eq he]
      have hcontent := toOption_content_withoutNulls he fun ⟨hc, hnulls⟩ => hnot ⟨hc, ⟨e, he⟩, hnulls⟩
      -- the verdict of the envelope is the same, and so is the content
      show (c.content e.withoutNulls).toOption.map (fun content => some (e.verdict content)) = _
      rw [hcontent]
      rfl
  · rintro rfl ⟨e, he⟩ hnulls
    exact command_of_nullsDecide he hnulls

end TranslatorTable

/-- A command that ended, and of which it is not said whether it took too long. -/
def endedCommand : Dictionary Value :=
  .ofList [("command.exit.code", .int 0), ("command.timedout", .null)]

theorem nullsDecide_endedCommand : CommandResult.NullsDecide endedCommand := by
  have htexts : ∀ name ∈ [CommandResult.stdoutMetric, CommandResult.stderrMetric, CommandResult.messageMetric,
      CommandResult.stackMetric], (endedCommand.get? name).isNone = true := by decide +kernel
  have hexit : endedCommand.get? CommandResult.exitMetric = some (.int 0) := rfl
  refine .timeout rfl ?_ ?_ (.inl ⟨0, hexit⟩)
  · intro name hname v hv
    have hnone := htexts name hname
    rw [hv] at hnone
    cases hnone
  · intro v hv
    exact .inr ⟨0, (Option.some.inj (hexit.symm.trans hv)).symm⟩

theorem TranslatorTable.withoutNulls_decides_endedCommand :
    (∃ fault ∈ CommandResult.nullFaults, (full .packaged).translate ReplyCategory.command.tag
        (Envelope.framed none endedCommand) = .error (.rejected fault (Envelope.framed none endedCommand))) ∧
      (∃ m, (full .packaged).translate ReplyCategory.command.tag
        (Envelope.framed none endedCommand).withoutNulls = .ok m) ∧
      ((full .packaged).translate ReplyCategory.keystores.tag
          (Envelope.framed none endedCommand).withoutNulls).toOption.map Message.verdict? =
        ((full .packaged).translate ReplyCategory.keystores.tag
          (Envelope.framed none endedCommand)).toOption.map Message.verdict? := by
  have hread : ∃ e, Envelope.read (Envelope.framed none endedCommand) .packaged = .ok e :=
    exists_eq_ok_of_isSome (by decide +kernel)
  obtain ⟨hrejected, haccepted⟩ :=
    (withoutNulls_decides .packaged .command (Envelope.framed none endedCommand)).2 rfl hread nullsDecide_endedCommand
  exact ⟨hrejected, haccepted, (withoutNulls_decides .packaged .keystores _).1.mpr fun ⟨hc, _⟩ => by cases hc⟩

/-- A null is not always as good as nothing. -/
theorem TranslatorTable.not_forall_withoutNulls :
    ¬∀ (registry : Registry) (c : ReplyCategory) (raw : RawMessage),
      ((full registry).translate c.tag raw.withoutNulls).toOption.map Message.verdict? =
        ((full registry).translate c.tag raw).toOption.map Message.verdict? := by
  intro h
  have hsame := congrArg Option.isSome (h .packaged .command (Envelope.framed none endedCommand))
  have hrejected : (((full .packaged).translate ReplyCategory.command.tag
      (Envelope.framed none endedCommand)).toOption.map Message.verdict?).isSome = false := by decide +kernel
  have haccepted : (((full .packaged).translate ReplyCategory.command.tag
      (Envelope.framed none endedCommand).withoutNulls).toOption.map Message.verdict?).isSome = true := by
    decide +kernel
  rw [hrejected, haccepted] at hsame
  cases hsame

end DeviceRelay
