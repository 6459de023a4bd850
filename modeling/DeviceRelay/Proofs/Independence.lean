import DeviceRelay.Proofs.Presence

/-!
# What a reply says whatever it is about

A reply is read in two phases. The first one knows neither the category nor the body, so what it finds is the same
for all replies of one frame, and what it fails with is what all of them are rejected for:

    frame ──▶ envelope ──┬── category c₁, body b₁ ──▶ message ─┐
                         │                                     ├─▶ one `ReplyFrame`
                         └── category c₂, body b₂ ──▶ message ─┘

* `Category.reply_eq_ok_iff` — the two phases of a reply that succeeds.
* `Envelope.metrics_entries` — the metrics that are left over from the first phase.
* `TranslatorTable.frame_independent` — two categories and two bodies behind one frame.
-/

namespace DeviceRelay

/-- What a reply has of its envelope. -/
structure ReplyFrame where
  clientId : String
  receivedOn : Timestamp
  sentOn : Option Timestamp
  channel : ReplyChannel
  code : ResponseCode
  remarks : ReplyRemarks

/-- The part of a message that comes from its envelope, if it is a reply. -/
def Message.frame? : Message → Option ReplyFrame
  | .reply head channel code remarks _ =>
    some ⟨head.clientId, head.receivedOn, head.sentOn, channel, code, remarks⟩
  | .notification _ _ _ _ => none

/-- The frame of the replies with an envelope. -/
def Envelope.frame (e : Envelope) : ReplyFrame :=
  ⟨e.channel.clientId, e.raw.receivedOn, e.raw.sentOn, e.channel, e.code,
    ⟨e.exceptionMessage, e.exceptionStack, e.metrics⟩⟩

/-- The metrics of an envelope are the others of the raw message, in their order. -/
theorem Envelope.metrics_entries {raw : RawMessage} {registry : Registry} {e : Envelope}
    (h : read raw registry = .ok e) :
    e.metrics.entries = raw.metrics.entries.filter fun entry =>
      entry.1 ∉ ["response.code", "response.exception.message", "response.exception.stack"] := by
  rw [(read_eq_ok_iff.mp h).metrics]
  refine List.filter_congr fun entry _ => ?_
  show (!ownMetrics.contains entry.1) = decide (entry.1 ∉ ownMetrics)
  rw [List.contains_eq_mem, decide_not]

theorem Envelope.read_withBody_eq_error_iff {raw : RawMessage} {registry : Registry} {body : Option Bytes}
    {cause : Fault} : read (raw.withBody body) registry = .error cause ↔ read raw registry = .error cause := by
  rw [read_withBody, map_eq_error]

section Reply

variable {c : ReplyCategory} {registry : Registry} {raw : RawMessage} {body : Option Bytes}

/-- A reply with another body succeeds if its envelope is read, and from that and the body its content. -/
theorem Category.reply_eq_ok_iff {m : Message} :
    message (.reply c) registry (raw.withBody body) = .ok m ↔
      ∃ e, Envelope.read raw registry = .ok e ∧
        ∃ content, c.content (e.withBody body) = .ok content ∧ replyMessage c e content = m := by
  rw [reply_withBody]
  refine bind_eq_ok.trans (exists_congr fun e => and_congr_right fun _ => ?_)
  exact map_eq_ok

theorem Category.frame?_replyMessage (c : ReplyCategory) (e : Envelope) (content : ReplyContent) :
    (replyMessage c e content).frame? = some e.frame := rfl

theorem TranslatorTable.rejected_of_read {cause : Fault} (h : Envelope.read raw registry = .error cause)
    (c : ReplyCategory) (body : Option Bytes) :
    (full registry).translate c.tag (raw.withBody body) = .error (.rejected cause (raw.withBody body)) := by
  rw [translate_full_reply, Category.reply_withBody, h]
  rfl

end Reply

/-- Two replies that differ in nothing but their categories and their bodies have the same envelope: it fails for both
with one cause, and both are rejected for that, or it gives both messages one frame, with the metrics that are not
about the response. -/
theorem TranslatorTable.frame_independent (registry : Registry) (c₁ c₂ : ReplyCategory) (raw : RawMessage)
    (body₁ body₂ : Option Bytes) :
    (∀ cause, Envelope.read (raw.withBody body₁) registry = .error cause ↔
        Envelope.read (raw.withBody body₂) registry = .error cause) ∧
      (∀ cause, Envelope.read (raw.withBody body₁) registry = .error cause →
        (full registry).translate c₁.tag (raw.withBody body₁) = .error (.rejected cause (raw.withBody body₁)) ∧
          (full registry).translate c₂.tag (raw.withBody body₂) = .error (.rejected cause (raw.withBody body₂))) ∧
      ∀ m₁ m₂, (full registry).translate c₁.tag (raw.withBody body₁) = .ok m₁ →
        (full registry).translate c₂.tag (raw.withBody body₂) = .ok m₂ →
        ∃ frame, m₁.frame? = some frame ∧ m₂.frame? = some frame ∧
          frame.remarks.metrics.entries = raw.metrics.entries.filter fun entry =>
            entry.1 ∉ ["response.code", "response.exception.message", "response.exception.stack"] := by
  refine ⟨fun cause => ?_, fun cause h => ?_, fun m₁ m₂ h₁ h₂ => ?_⟩
  · rw [Envelope.read_withBody_eq_error_iff, Envelope.read_withBody_eq_error_iff]
  · have hread := Envelope.read_withBody_eq_error_iff.mp h
    exact ⟨rejected_of_read hread c₁ body₁, rejected_of_read hread c₂ body₂⟩
  · rw [translate_full_reply, mapError_eq_ok] at h₁
    rw [translate_full_reply, mapError_eq_ok] at h₂
    obtain ⟨e, he, content₁, -, rfl⟩ := Category.reply_eq_ok_iff.mp h₁
    obtain ⟨e', he', content₂, -, rfl⟩ := Category.reply_eq_ok_iff.mp h₂
    obtain rfl := Except.ok.inj (he.symm.trans he')
    exact ⟨e.frame, Category.frame?_replyMessage c₁ e content₁, Category.frame?_replyMessage c₂ e content₂,
      Envelope.metrics_entries he⟩

/-- Metrics about the response, about a command and about something else. -/
def mixedMetrics : Dictionary Value :=
  .ofList [("temperature", .int 21), ("response.code", .int 404), ("command.exit.code", .int 0)]

theorem TranslatorTable.frame_independent_mixed :
    ∃ m₁ m₂ frame, (full .packaged).translate ReplyCategory.keystores.tag
          (Envelope.framed (some emptyList) mixedMetrics) = .ok m₁ ∧
        (full .packaged).translate ReplyCategory.command.tag (Envelope.framed none mixedMetrics) = .ok m₂ ∧
        m₁.frame? = some frame ∧ m₂.frame? = some frame ∧
        frame.remarks.metrics.names = ["temperature", "command.exit.code"] := by
  obtain ⟨m₁, h₁⟩ : ∃ m, (full .packaged).translate ReplyCategory.keystores.tag
      (Envelope.framed (some emptyList) mixedMetrics) = .ok m := exists_eq_ok_of_isSome (by decide +kernel)
  obtain ⟨m₂, h₂⟩ : ∃ m, (full .packaged).translate ReplyCategory.command.tag
      (Envelope.framed none mixedMetrics) = .ok m := exists_eq_ok_of_isSome (by decide +kernel)
  obtain ⟨-, -, hframe⟩ := frame_independent .packaged .keystores .command (Envelope.framed none mixedMetrics)
    (some emptyList) none
  obtain ⟨frame, hframe₁, hframe₂, hmetrics⟩ := hframe m₁ m₂ h₁ h₂
  refine ⟨m₁, m₂, frame, h₁, h₂, hframe₁, hframe₂, ?_⟩
  rw [Dictionary.names, hmetrics]
  decide +kernel

end DeviceRelay
