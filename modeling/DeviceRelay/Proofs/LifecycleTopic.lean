import DeviceRelay.LifecycleChannel
import DeviceRelay.Proofs.ReplyTopic
import DeviceRelay.Proofs.Checked

/-!
# Lifecycle topics, and why none of them is a reply's

A lifecycle channel has a topic of its own, as a reply channel has one, and is read by its segments alone. Both readers
cut a topic at the same separator, so that what both accepted would have the same five segments. The fourth one
decides: that of a notification is the broker's, without a dash, and that of a reply has a dash in front of the
application's version. The verbs may well coincide.

    prefix / account / client id / MQTT         / MISSING
    prefix / account / client id / NAME-VERSION / verb     / …

* `read_eq_ok_iff` — the topics of a channel.
* `readReply_eq_error` — how the topic of a notification fails as that of a reply.
-/

namespace DeviceRelay.LifecycleChannel

/-- The segments of a channel's topic, first to last. -/
def segments (d : Descriptor) (ch : LifecycleChannel) : List String :=
  [d.controlPrefix, ch.account, ch.clientId, brokerSegment, ch.phase.text]

/-- A topic gives a channel of a phase exactly if it has the channel's segments and the channel has an owner. -/
theorem read_eq_ok_iff {topic : String} {d : Descriptor} {phase : LifecyclePhase} {ch : LifecycleChannel} :
    read topic d phase = .ok ch ↔
      Text.split d.topicSeparator topic = ch.segments d ∧ ch.phase = phase ∧ ch.account ≠ "" ∧ ch.clientId ≠ "" := by
  constructor
  · intro h
    unfold read at h
    split at h
    · next start account clientId app verb hsplit =>
      obtain ⟨hstart, h⟩ := ite_error_eq_ok.mp h
      obtain ⟨hkind, h⟩ := ite_error_eq_ok.mp h
      obtain ⟨howner, h⟩ := ite_error_eq_ok.mp h
      obtain rfl := Except.ok.inj h
      obtain ⟨happ, hverb⟩ := not_or.mp hkind
      obtain ⟨haccount, hclient⟩ := not_or.mp howner
      refine ⟨?_, rfl, haccount, hclient⟩
      rw [hsplit, Decidable.not_not.mp hstart, Decidable.not_not.mp happ, Decidable.not_not.mp hverb]
      rfl
    · cases h
  · rintro ⟨hsplit, rfl, haccount, hclient⟩
    unfold read
    rw [hsplit]
    simp [segments, haccount, hclient]

/-- The topic of a channel is its segments, joined. -/
theorem intercalate_segments {topic : String} {d : Descriptor} {phase : LifecyclePhase} {ch : LifecycleChannel}
    (h : read topic d phase = .ok ch) : String.intercalate d.topicSeparator (ch.segments d) = topic := by
  rw [← (read_eq_ok_iff.mp h).1, Text.intercalate_split]

/-- The topic of a notification is not that of a reply: its verb is not a reply's, or, where replies have the verb of
the phase, its application has no version. -/
theorem readReply_eq_error {topic : String} {d : Descriptor} {phase : LifecyclePhase} {ch : LifecycleChannel}
    (h : read topic d phase = .ok ch) :
    ReplyChannel.read topic d = .error
      (if d.replyVerb = phase.text then .badApplication brokerSegment else .notReply topic d.replyVerb) := by
  obtain ⟨hsplit, rfl, haccount, hclient⟩ := read_eq_ok_iff.mp h
  have happ : ReplyChannel.application? brokerSegment = none := by decide
  unfold ReplyChannel.read
  rw [hsplit]
  by_cases hverb : d.replyVerb = ch.phase.text
  · simp [segments, hverb, haccount, hclient, happ]
  · simp [segments, hverb, Ne.symm hverb]

end DeviceRelay.LifecycleChannel
