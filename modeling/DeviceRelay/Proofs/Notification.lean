import DeviceRelay.Proofs.Independence
import DeviceRelay.Proofs.LifecycleTopic

/-!
# Notifications and replies apart

What is a notification under some registry is a reply of no category, since its topic is not that of a reply. The
connector's descriptor is the same for both, and it decides how the topic fails as that of a reply:

    raw message ──resolve──▶ descriptor ──┬──lifecycle channel──▶ notification
                                          └──reply channel──────▶ an envelope fault

* `TranslatorTable.notification_not_reply` — this, with the topic that a lifecycle channel determines.
-/

namespace DeviceRelay

/-- An envelope whose topic is not that of a reply fails by its topic. -/
theorem Envelope.read_of_badTopic {raw : RawMessage} {registry : Registry} {d : Descriptor} {fault : EnvelopeFault}
    (hd : resolve raw registry = .ok d) (htopic : ReplyChannel.read raw.topic d = .error fault) :
    read raw registry = .error (.envelope fault) := by
  unfold read
  rw [hd, mapError_ok]
  show ((ReplyChannel.read raw.topic d).mapError Fault.envelope).bind _ = _
  rw [htopic]
  rfl

theorem Category.notification_eq_ok {phase : LifecyclePhase} {registry : Registry} {raw : RawMessage} {m : Message}
    (h : message (.lifecycle phase) registry raw = .ok m) :
    ∃ d ch, Envelope.resolve raw registry = .ok d ∧ LifecycleChannel.read raw.topic d phase = .ok ch := by
  obtain ⟨d, hd, h⟩ := bind_eq_ok.mp h
  obtain ⟨ch, hch, -⟩ := bind_eq_ok.mp h
  exact ⟨d, ch, mapError_eq_ok.mp hd, mapError_eq_ok.mp hch⟩

/-- A raw message that is a notification is rejected under every category of replies, and that for its topic, whatever
the registry and even if the verb of replies is that of the phase. Under every descriptor the segments of a lifecycle
channel join to the topic that it was read from, and no other topic gives the channel. -/
theorem TranslatorTable.notification_not_reply :
    (∀ (registry : Registry) (raw : RawMessage) (m : Message),
      (full registry).translate "lifecycle.missing" raw = .ok m →
      ∃ d, registry.lookup raw.connectorName = some d ∧ ∀ c : ReplyCategory,
        (full registry).translate c.tag raw = .error (.rejected (.envelope
          (if d.replyVerb = "MISSING" then .badApplication "MQTT" else .notReply raw.topic d.replyVerb)) raw)) ∧
    ∀ (topic : String) (d : Descriptor) (phase : LifecyclePhase) (ch : LifecycleChannel),
      LifecycleChannel.read topic d phase = .ok ch →
      String.intercalate d.topicSeparator [d.controlPrefix, ch.account, ch.clientId, "MQTT", phase.text] = topic ∧
        ∀ other, LifecycleChannel.read other d phase = .ok ch → other = topic := by
  constructor
  · intro registry raw m h
    rw [show "lifecycle.missing" = (Category.lifecycle .missing).tag from rfl, translate_full_tag,
      mapError_eq_ok] at h
    obtain ⟨d, ch, hd, hch⟩ := Category.notification_eq_ok h
    refine ⟨d, Envelope.lookup_of_resolve hd, fun c => ?_⟩
    have hread := Envelope.read_of_badTopic hd (LifecycleChannel.readReply_eq_error hch)
    exact rejected_of_read hread c raw.body
  · intro topic d phase ch h
    obtain ⟨-, rfl, -⟩ := LifecycleChannel.read_eq_ok_iff.mp h
    refine ⟨LifecycleChannel.intercalate_segments h, fun other hother => ?_⟩
    rw [← LifecycleChannel.intercalate_segments h, ← LifecycleChannel.intercalate_segments hother]

/-- A connector whose replies have the verb of the phase. -/
def missingVerb : Descriptor := { Descriptor.ofName "utf-8" "kura-mqtt" with replyVerb := "MISSING" }

/-- A registry that knows this connector only. -/
def missingVerbRegistry : Registry := ⟨[.ofList [missingVerb]]⟩

/-- A device is missing. -/
def missingDevice : RawMessage :=
  { Envelope.framed none .empty with topic := "$EDC/acme/gw-1/MQTT/MISSING" }

theorem TranslatorTable.notification_not_reply_missingVerb :
    (∃ m, (full missingVerbRegistry).translate "lifecycle.missing" missingDevice = .ok m) ∧
      (∀ c : ReplyCategory, (full missingVerbRegistry).translate c.tag missingDevice =
        .error (.rejected (.envelope (.badApplication "MQTT")) missingDevice)) ∧
      String.intercalate "/" ["$EDC", "acme", "gw-1", "MQTT", "MISSING"] = missingDevice.topic := by
  obtain ⟨m, hm⟩ : ∃ m, (full missingVerbRegistry).translate "lifecycle.missing" missingDevice = .ok m :=
    exists_eq_ok_of_isSome (by decide +kernel)
  have hchannel : LifecycleChannel.read missingDevice.topic missingVerb .missing = .ok ⟨"acme", "gw-1", .missing⟩ :=
    LifecycleChannel.read_eq_ok_iff.mpr ⟨by decide +kernel, rfl, by decide, by decide⟩
  obtain ⟨hreplies, htopics⟩ := notification_not_reply
  obtain ⟨d, hd, hrejected⟩ := hreplies missingVerbRegistry missingDevice m hm
  have hknown : missingVerbRegistry.lookup missingDevice.connectorName = some missingVerb := by decide +kernel
  obtain rfl := Option.some.inj (hknown.symm.trans hd)
  exact ⟨⟨m, hm⟩, hrejected, (htopics _ _ _ _ hchannel).1⟩

end DeviceRelay
