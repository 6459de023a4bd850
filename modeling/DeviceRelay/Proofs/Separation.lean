import DeviceRelay.Proofs.Presence

/-!
# Bodies and metrics apart

The content of a reply has one source only. For commands that is the metrics, and for all other categories the body
with the charset that it is in. What the other source holds makes no difference to the content:

    metrics ────────▶ command
    body, charset ──▶ keystores, items, …, packages

* `ReplyCategory.content_congr` — the body and its charset, whatever is beside them.
* `Category.command_withBody` — a command, whatever the body.
* `TranslatorTable.content_separate` — two messages with one source of their content.
-/

namespace DeviceRelay

namespace ReplyCategory

/-- What is read of a body is read of its octets in its charset. -/
theorem ofBody_congr {α : Type} (read : Bytes → LooseText → Except Fault α) {e₁ e₂ : Envelope}
    (hbody : e₁.raw.body = e₂.raw.body) (hcharset : e₁.charset = e₂.charset) :
    ofBody read e₁ = ofBody read e₂ := by
  have hcontent : e₁.raw.content? = e₂.raw.content? := by
    rw [RawMessage.content?, RawMessage.content?, hbody]
  rw [ofBody, ofBody, hcontent, hcharset]

/-- Behind two envelopes with one body in one charset there is one content. -/
theorem content_congr {c : ReplyCategory} (hc : c ≠ .command) {e₁ e₂ : Envelope}
    (hbody : e₁.raw.body = e₂.raw.body) (hcharset : e₁.charset = e₂.charset) : c.content e₁ = c.content e₂ := by
  cases c with
  | command => exact absurd rfl hc
  | _ => exact congrArg (Except.map _) (ofBody_congr _ hbody hcharset)

end ReplyCategory

/-- The content of a command is read from what an envelope has without its body. -/
theorem Category.command_withBody (registry : Registry) (raw : RawMessage) (body : Option Bytes) :
    message (.reply .command) registry (raw.withBody body) = message (.reply .command) registry raw :=
  calc message (.reply .command) registry (raw.withBody body)
    _ = (Envelope.read raw registry).bind fun e =>
          (ReplyCategory.command.content e).map (replyMessage .command e) := reply_withBody ..
    _ = message (.reply .command) registry raw := (reply_withBody .command registry raw raw.body).symm

/-- Once the envelope of a reply is read, its content decides what becomes of it. -/
theorem Category.content?_of_read {raw : RawMessage} {registry : Registry} {e : Envelope}
    (h : Envelope.read raw registry = .ok e) (c : ReplyCategory) :
    (message (.reply c) registry raw).map Message.content? = (c.content e).map some := by
  rw [message, h]
  show ((c.content e).bind fun content => .ok (replyMessage c e content)).map Message.content? = _
  cases c.content e <;> rfl

theorem TranslatorTable.content?_of_read {raw : RawMessage} {registry : Registry} {e : Envelope}
    (h : Envelope.read raw registry = .ok e) (c : ReplyCategory) :
    ((full registry).translate c.tag raw).map Message.content? =
      ((c.content e).map some).mapError fun cause => .rejected cause raw := by
  rw [translate_full_reply, ← Category.content?_of_read h c]
  cases Category.message (.reply c) registry raw <;> rfl

/-- A command becomes the same message, or is rejected for the same cause, with any body and without one. A reply of
any other category whose envelope is read has the content, or is rejected for the cause, that every other reply with
that body in that charset has, whatever the two differ in besides. -/
theorem TranslatorTable.content_separate (registry : Registry) :
    (∀ raw : RawMessage, ∃ outcome : Except Fault Message, ∀ body : Option Bytes,
      (full registry).translate ReplyCategory.command.tag (raw.withBody body) =
        outcome.mapError fun cause => .rejected cause (raw.withBody body)) ∧
    ∀ c : ReplyCategory, c ≠ .command → ∀ raw₁ raw₂ e₁ e₂,
      Envelope.read raw₁ registry = .ok e₁ → Envelope.read raw₂ registry = .ok e₂ →
      raw₁.body = raw₂.body → e₁.charset = e₂.charset →
      ∃ outcome : Except Fault ReplyContent, ∀ raw ∈ [raw₁, raw₂],
        ((full registry).translate c.tag raw).map Message.content? =
          (outcome.map some).mapError fun cause => .rejected cause raw := by
  constructor
  · intro raw
    refine ⟨(Category.reply .command).message registry raw, fun body => ?_⟩
    rw [translate_full_reply, Category.command_withBody]
  · intro c hc raw₁ raw₂ e₁ e₂ h₁ h₂ hbody hcharset
    have hraw₁ := (Envelope.read_eq_ok_iff.mp h₁).raw
    have hraw₂ := (Envelope.read_eq_ok_iff.mp h₂).raw
    have hcontent : c.content e₁ = c.content e₂ :=
      ReplyCategory.content_congr hc (by rw [hraw₁, hraw₂, hbody]) hcharset
    refine ⟨c.content e₁, ?_⟩
    rw [List.forall_mem_cons, List.forall_mem_singleton]
    refine ⟨content?_of_read h₁ c, ?_⟩
    rw [hcontent]
    exact content?_of_read h₂ c

/-- A reply over another connector, from another application, about a failure. -/
def otherReply (body : Option Bytes) : RawMessage :=
  { Envelope.framed body (.ofList [("response.code", .int 500), ("command.exit.code", .text "none")]) with
    connectorName := "kura-amqp", topic := "$EDC.umbrella.gw-7.ASSET-V2.REPLY.r.7" }

theorem TranslatorTable.content_separate_emptyList :
    ∀ raw ∈ [Envelope.framed (some emptyList) .empty, otherReply (some emptyList)],
      ((full .packaged).translate ReplyCategory.keystores.tag raw).map Message.content? =
        .ok (some (.keystore { KeystoreContent.empty with stores := some [] })) := by
  obtain ⟨e₁, h₁⟩ : ∃ e, Envelope.read (Envelope.framed (some emptyList) .empty) .packaged = .ok e :=
    exists_eq_ok_of_isSome (by decide +kernel)
  obtain ⟨e₂, h₂⟩ : ∃ e, Envelope.read (otherReply (some emptyList)) .packaged = .ok e :=
    exists_eq_ok_of_isSome (by decide +kernel)
  have hcharset : ∀ raw, (Envelope.read raw .packaged).toOption.map Envelope.charset = some "utf-8" →
      ∀ e, Envelope.read raw .packaged = .ok e → e.charset = "utf-8" := by
    intro raw h e he
    rw [he] at h
    exact Option.some.inj h
  have hboth : e₁.charset = e₂.charset :=
    (hcharset _ (by decide +kernel) e₁ h₁).trans (hcharset _ (by decide +kernel) e₂ h₂).symm
  obtain ⟨outcome, houtcome⟩ :=
    (content_separate .packaged).2 .keystores (by decide) _ _ e₁ e₂ h₁ h₂ rfl hboth
  -- what the first of the two becomes tells the outcome of both
  have hfirst : (((full .packaged).translate ReplyCategory.keystores.tag
      (Envelope.framed (some emptyList) .empty)).map Message.content?).toOption =
        some (some (.keystore { KeystoreContent.empty with stores := some [] })) := by decide +kernel
  rw [houtcome _ List.mem_cons_self] at hfirst
  intro raw hraw
  rw [houtcome raw hraw]
  cases outcome with
  | error cause => cases hfirst
  | ok content => exact congrArg Except.ok (Option.some.inj hfirst)

end DeviceRelay
