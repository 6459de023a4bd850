import DeviceRelay.Http.Submission
import DeviceRelay.Proofs.ErrorReport
import DeviceRelay.Proofs.Hex
import DeviceRelay.Proofs.Presence
import DeviceRelay.Proofs.Timestamp.Text

/-!
# Rejected messages that are submitted again

The form in which a rejected message is kept has the fields of a submission, so it can be submitted as it is: body,
metrics and time of sending come back. What the form leaves out, the metadata and whether a body is empty or missing,
decides about no translation.

    raw message ──kept──▶ record ──five fields──▶ submission ──raw──▶ raw message ──translate──▶ the same

* `TranslatorTable.translate_redelivered` — what a message delivered again is translated to.
* `RawMessage.replays_iff` — which messages can be submitted again.
-/

namespace DeviceRelay

/-! ### Messages delivered again -/

/-- The message as it is delivered again: an empty body is no body, and the metadata stay behind. -/
def RawMessage.redelivered (raw : RawMessage) (now : Timestamp) : RawMessage :=
  { raw with body := raw.content?, receivedOn := now, metadata := .empty }

/-- The message as it would be if it had been received then. -/
def Message.receivedAt (now : Timestamp) : Message → Message
  | .reply head channel code remarks content => .reply { head with receivedOn := now } channel code remarks content
  | .notification head channel metrics body => .notification { head with receivedOn := now } channel metrics body

/-- How the translation of a message ends that is delivered again. -/
def RawMessage.redeliveredEnding (again : RawMessage) : Except Failure Message → Except Failure Message
  | .ok m => .ok (m.receivedAt again.receivedOn)
  | .error (.rejected cause _) => .error (.rejected cause again)
  | .error failure => .error failure

section Redelivered

variable (raw : RawMessage) (now : Timestamp) (registry : Registry)

theorem RawMessage.content?_redelivered : (raw.redelivered now).content? = raw.content? := by
  show (raw.body.filter _).filter _ = raw.body.filter _
  rw [Option.filter_filter]
  simp

/-- The envelope of the message delivered again. -/
def Envelope.redelivered (e : Envelope) (now : Timestamp) : Envelope := { e with raw := e.raw.redelivered now }

theorem Envelope.read_redelivered :
    read (raw.redelivered now) registry = (read raw registry).map fun e => e.redelivered now :=
  read_ofRaw (f := fun raw => raw.redelivered now) (fun _ => rfl) (fun _ => rfl) (fun _ => rfl) raw registry

theorem ReplyCategory.ofBody_redelivered {α : Type} (read : Bytes → LooseText → Except Fault α) (e : Envelope) :
    ofBody read (e.redelivered now) = ofBody read e := by
  have hcontent : (e.redelivered now).raw.content? = e.raw.content? := e.raw.content?_redelivered now
  rw [ofBody, ofBody, hcontent]
  rfl

theorem ReplyCategory.content_redelivered (c : ReplyCategory) (e : Envelope) :
    c.content (e.redelivered now) = c.content e := by
  cases c with
  | command => rfl
  | _ => simp only [content, ofBody_redelivered]

/-- A message delivered again says the same, but for when it was received. -/
theorem Category.message_redelivered (c : Category) :
    c.message registry (raw.redelivered now) = (c.message registry raw).map (Message.receivedAt now) := by
  cases c with
  | reply r =>
    show (Envelope.read (raw.redelivered now) registry).bind (fun e =>
      (r.content e).bind fun content => .ok (replyMessage r e content)) = _
    rw [Envelope.read_redelivered, bind_map]
    symm
    refine map_bind.trans (congrArg (Except.bind _) (funext fun e => ?_))
    rw [r.content_redelivered now e]
    exact map_bind
  | lifecycle phase =>
    symm
    refine map_bind.trans (congrArg (Except.bind _) (funext fun d => ?_))
    refine map_bind.trans (congrArg (Except.bind _) (funext fun channel => ?_))
    rw [RawMessage.content?_redelivered]
    rfl

/-- A message delivered again is translated to the same message, but for when it was received, or fails for the same
cause. -/
theorem TranslatorTable.translate_redelivered (tag : String) :
    (full registry).translate tag (raw.redelivered now) =
      (raw.redelivered now).redeliveredEnding ((full registry).translate tag raw) := by
  rw [translate_full, translate_full]
  cases Category.ofTag? tag with
  | none => rfl
  | some c =>
    dsimp only
    rw [c.message_redelivered]
    cases c.message registry raw <;> rfl

end Redelivered

/-! ### Kept messages as submissions -/

/-- The names of the fields of a submission. -/
def Http.Submission.fieldNames : List String := ["connector_name", "topic", "body_hex", "metrics", "sent_on"]

namespace RawMessage

open Http

/-- The message can be kept, and what is kept of it can be submitted. What is submitted is the message delivered again,
and translated to the same. -/
def Replays (raw : RawMessage) : Prop :=
  ∃ kept, ErrorReport.kept raw = .ok kept ∧
    ∃ s, Submission.fields (kept.filterNames Submission.fieldNames.contains) = .ok s ∧
      ∀ now, s.raw now = raw.redelivered now ∧
        ∀ registry tag, (TranslatorTable.full registry).translate tag (s.raw now) =
          (s.raw now).redeliveredEnding ((TranslatorTable.full registry).translate tag raw)

variable {raw : RawMessage}

/-- The fields of what is kept that a submission has. -/
theorem filterNames_keptForm (raw : RawMessage) :
    ((ErrorReport.keptForm raw).filterNames Submission.fieldNames.contains).entries =
      [("connector_name", .text raw.connectorName), ("topic", .text raw.topic),
        ("metrics", Value.ofJson raw.metricsValue.form),
        ("sent_on", Value.ofJson (.ofText? (raw.sentOn.map Timestamp.text))),
        ("body_hex", Value.ofJson (.ofText? raw.bodyHex))] := by
  show (ErrorReport.keptForm raw).entries.filter (fun entry => Submission.fieldNames.contains entry.1) = _
  rw [ErrorReport.keptForm_entries]
  simp [keptMembers, Submission.fieldNames, Value.ofJson]

/-- A body comes back, unless it is empty. -/
theorem bodyOf_bodyHex (raw : RawMessage) :
    Record.nullable Submission.bodyOf (Value.ofJson (.ofText? raw.bodyHex)) = .ok (raw.content?.map some) := by
  unfold bodyHex
  cases hcontent : raw.content? with
  | none => rfl
  | some body =>
    have hne : body ≠ [] := by
      rintro rfl
      simp [content?] at hcontent
    show (Submission.bodyOf (.text (Hex.encode body))).map some = _
    rw [Submission.bodyOf]
    simp [Record.text, Hex.read_encode, Hex.encode_ne_empty hne]
    rfl

/-- Metrics of the kinds that JSON has come back. -/
theorem dictionary_metrics (hmetrics : raw.metricsValue.Every Value.IsJsonKind) :
    Record.dictionary (Value.ofJson raw.metricsValue.form) = .ok raw.metrics := by
  rw [Value.ofJson_form hmetrics]
  exact congrArg Except.ok raw.metrics.ofList_entries

/-- A time of sending comes back exactly if its offset is one of whole minutes. -/
theorem instant_sentOn_iff (hsent : ∀ t ∈ raw.sentOn, t.Lawful) :
    Record.nullable Record.instant (Value.ofJson (.ofText? (raw.sentOn.map Timestamp.text))) = .ok raw.sentOn ↔
      ∀ t ∈ raw.sentOn, t.WholeMinutes := by
  cases hsentOn : raw.sentOn with
  | none => exact iff_of_true rfl nofun
  | some t =>
    have hread := Timestamp.read_text_iff (hsent t hsentOn)
    show (Record.instantOf (Timestamp.read t.text)).map some = .ok (some t) ↔ ∀ t' ∈ some t, t'.WholeMinutes
    have hforall : (∀ t' ∈ some t, t'.WholeMinutes) ↔ t.WholeMinutes := by simp
    rw [hforall, ← hread]
    cases Timestamp.read t.text with
    | ok t' => simp [Record.instantOf, Except.map]
    | error fault => cases fault <;> simp [Record.instantOf, Checked.refuse, Except.map]

/-- All that is kept of a message can be submitted, as far as its time of sending can. -/
theorem fields_keptForm (hmetrics : raw.metricsValue.Every Value.IsJsonKind) :
    Submission.fields ((ErrorReport.keptForm raw).filterNames Submission.fieldNames.contains) =
      (Checked.under (.field "sent_on") (Record.nullable Record.instant
        (Value.ofJson (.ofText? (raw.sentOn.map Timestamp.text))))).map fun sentOn =>
          ⟨raw.connectorName, raw.topic, raw.content?, raw.metrics, sentOn⟩ := by
  have hget (name : String) := congrArg ( firstEntry? name) (filterNames_keptForm raw)
  simp only [Submission.fields, Record.required, Record.withDefault, Dictionary.get?, hget, firstEntry?,
    String.reduceEq, if_true, if_false, bodyOf_bodyHex, dictionary_metrics hmetrics]
  have hjoin : (raw.content?.map some).join = raw.content? := by cases raw.content? <;> rfl
  cases Record.nullable Record.instant (Value.ofJson (.ofText? (raw.sentOn.map Timestamp.text))) with
  | ok sentOn => simp [Record.text, Checked.under, Checked.both, Except.mapError, Except.map, hjoin]
  | error problems => rfl

/-- A message with metrics of the kinds that JSON has can be submitted again exactly if its metrics and metadata have
room in a record and the time of sending, if there is one, has an offset of whole minutes. -/
theorem replays_iff (hmetrics : raw.metricsValue.Every Value.IsJsonKind) (hsent : ∀ t ∈ raw.sentOn, t.Lawful) :
    raw.Replays ↔ raw.HasRoom 256 ∧ ∀ t ∈ raw.sentOn, t.WholeMinutes := by
  rw [← instant_sentOn_iff hsent]
  constructor
  · rintro ⟨kept, hkept, s, hs, hraw⟩
    obtain ⟨hroom, rfl⟩ := ErrorReport.kept_eq_ok_iff.mp hkept
    rw [fields_keptForm hmetrics] at hs
    obtain ⟨sentOn, hsentOn, rfl⟩ := map_eq_ok.mp hs
    -- the time of sending that was submitted is the one that was kept
    obtain rfl : sentOn = raw.sentOn := congrArg RawMessage.sentOn (hraw raw.receivedOn).1
    exact ⟨hroom, Checked.under_eq_ok.mp hsentOn⟩
  · rintro ⟨hroom, hsentOn⟩
    refine ⟨_, ErrorReport.kept_eq_ok_iff.mpr ⟨hroom, rfl⟩,
      ⟨raw.connectorName, raw.topic, raw.content?, raw.metrics, raw.sentOn⟩, ?_,
      fun now => ⟨rfl, fun registry tag => ?_⟩⟩
    · rw [fields_keptForm hmetrics]
      exact map_eq_ok.mpr ⟨_, Checked.under_eq_ok.mpr hsentOn, rfl⟩
    · exact TranslatorTable.translate_redelivered raw now registry tag

/-- A reply with an empty body, sent where the clock is behind universal time. -/
def datedMessage : RawMessage :=
  { Envelope.framed (some []) (.ofList [("response.code", .int 200), ("readings", .list [.null, .dict [("t", .int 21)]])])
    with sentOn := some ⟨1704164645123456, some (-12600000000)⟩ }

theorem replays_iff_dated :
    datedMessage.metricsValue.Every Value.IsJsonKind ∧ (∀ t ∈ datedMessage.sentOn, t.Lawful) ∧
      datedMessage.Replays := by
  have hmetrics : datedMessage.metricsValue.Every Value.IsJsonKind := by
    show (Value.dict [("response.code", .int 200), ("readings", .list [.null, .dict [("t", .int 21)]])]).Every _
    simp [Value.Every, Value.EveryItem, Value.EveryEntry, Value.IsJsonKind, namesOf]
  have hsent : ∀ t ∈ datedMessage.sentOn, t.Lawful := by
    rintro t ⟨rfl⟩
    exact ⟨by decide, by decide, by rintro offset ⟨rfl⟩; decide⟩
  have hroom : datedMessage.HasRoom 256 :=
    { metrics_levels := by decide
      metrics_form := hmetrics.imp fun _ hkind => by rintro rfl; exact hkind
      metadata_levels := by decide
      metadata_form := Value.every_dict.mpr ⟨by rintro ⟨⟩, List.forall_mem_nil _⟩ }
  refine ⟨hmetrics, hsent, (replays_iff hmetrics hsent).mpr ⟨hroom, ?_⟩⟩
  rintro t ⟨rfl⟩ offset ⟨rfl⟩
  rfl

/-! ### A message that cannot be kept -/

theorem not_forall_replays :
    ¬∀ raw : RawMessage, raw.metricsValue.Every Value.IsJsonKind → (∀ t ∈ raw.sentOn, t.Lawful) →
      raw.Replays := by
  intro h
  have hmetrics : (Envelope.framed none (.ofList [("k", .nestedLists 255)])).metricsValue.Every Value.IsJsonKind := by
    show (Value.dict [("k", .nestedLists 255)]).Every _
    have hnested := Value.every_nestedLists (p := Value.IsJsonKind) (fun _ => trivial) 255
    simp [Value.every_dict, Value.IsJsonKind, namesOf, hnested]
  obtain ⟨kept, hkept, -⟩ := h _ hmetrics nofun
  -- the metrics have 257 levels, one more than a record has room for
  have hlevels : (Value.dict [("k", .nestedLists 255)]).levels ≤ 256 :=
    (ErrorReport.kept_eq_ok_iff.mp hkept).1.metrics_levels
  rw [Value.levels_dict_nestedLists] at hlevels
  omega

end RawMessage

end DeviceRelay
