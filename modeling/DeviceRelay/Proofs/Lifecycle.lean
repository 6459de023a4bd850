import DeviceRelay.Proofs.ErrorReport
import DeviceRelay.Proofs.Hex
import DeviceRelay.Proofs.Message.Record
import DeviceRelay.Proofs.Notification

/-!
# What a notification is read from

Whether there is a notification is read from the connector's name and the topic alone. What else the raw message holds
goes into the notification as it is, and of all that only the metrics decide whether there is a record of it.

    connector, topic ──resolve, read──▶ channel ─┐
    metrics, body ───────────────────────────────┴─▶ notification ──dump──▶ record, with the body as hexadecimal text

* `LifecycleChannel.ofRaw_congr` — the connector and the topic decide.
* `Message.Keeps` — what the notification has of the raw message.
* `Message.recordsBody_notification_iff` — which notifications have a record with their body.
-/

namespace DeviceRelay

/-! ### The channel decides -/

/-- The lifecycle channel that a raw message has under a phase. -/
def LifecycleChannel.ofRaw (registry : Registry) (phase : LifecyclePhase) (raw : RawMessage) :
    Except EnvelopeFault LifecycleChannel :=
  (Envelope.resolve raw registry).bind fun d => read raw.topic d phase

theorem LifecycleChannel.ofRaw_congr {raw other : RawMessage} (hname : raw.connectorName = other.connectorName)
    (htopic : raw.topic = other.topic) (registry : Registry) (phase : LifecyclePhase) :
    ofRaw registry phase raw = ofRaw registry phase other := by
  rw [ofRaw, ofRaw, Envelope.resolve, Envelope.resolve, hname, htopic]

namespace Category

/-- The notification of a raw message with this channel. -/
def notification (phase : LifecyclePhase) (raw : RawMessage) (channel : LifecycleChannel) : Message :=
  .notification (head (.lifecycle phase) raw channel.clientId) channel raw.metrics raw.content?

/-- A raw message with a channel becomes a notification, and one without fails as its channel does. -/
theorem message_lifecycle (phase : LifecyclePhase) (registry : Registry) (raw : RawMessage) :
    message (.lifecycle phase) registry raw =
      ((LifecycleChannel.ofRaw registry phase raw).mapError .envelope).map (notification phase raw) := by
  show ((Envelope.resolve raw registry).mapError Fault.envelope).bind (fun d =>
    ((LifecycleChannel.read raw.topic d phase).mapError Fault.envelope).bind fun channel =>
      .ok (notification phase raw channel)) = _
  rw [LifecycleChannel.ofRaw]
  cases Envelope.resolve raw registry with
  | error fault => rfl
  | ok d =>
    show ((LifecycleChannel.read raw.topic d phase).mapError Fault.envelope).bind _ =
      ((LifecycleChannel.read raw.topic d phase).mapError Fault.envelope).map _
    cases LifecycleChannel.read raw.topic d phase <;> rfl

end Category

/-! ### What is kept -/

namespace Message

/-- The body of a message that has one of its own. -/
def body : Message → Option Bytes
  | .reply _ _ _ _ _ => none
  | .notification _ _ _ body => body

/-- The message has the metrics and the octets of the raw message, where having no octets is having no body. -/
structure Keeps (m : Message) (raw : RawMessage) : Prop where
  metrics : m.metrics = raw.metrics
  octets : m.body.getD [] = raw.body.getD []
  body_nonempty : m.body ≠ some []

theorem keeps_notification (phase : LifecyclePhase) (raw : RawMessage) (channel : LifecycleChannel) :
    (Category.notification phase raw channel).Keeps raw := by
  have hbody : (Category.notification phase raw channel).body = raw.content? := rfl
  refine ⟨rfl, ?_, ?_⟩ <;> rw [hbody, RawMessage.content?]
  · rcases raw.body with _ | _ | ⟨b, rest⟩ <;> rfl
  · rcases raw.body with _ | _ | ⟨b, rest⟩ <;> simp [Option.filter]

end Message

/-! ### The record -/

/-- A member of an object. -/
def Json.member? (name : String) : Json → Option Json
  | .obj members => last? name members
  | _ => none

/-- The value stands for the octets: hexadecimal text that writes them, or null if there are none. -/
def Json.IsOctets (octets : Bytes) (j : Json) : Prop :=
  if octets = [] then j = .null else ∃ text, j = .str text ∧ Hex.Writes octets text

namespace Message

/-- The message has a record, whose payload has the octets for the body. -/
def RecordsBody (m : Message) (octets : Bytes) : Prop :=
  ∃ record payload body, m.dump = .ok record ∧ record.member? "payload" = some payload ∧
    payload.member? "body" = some body ∧ body.IsOctets octets

theorem isOctets_part (body : Option Bytes) :
    (part (fun b => .str (Hex.encode b)) (body.filter fun b => !b.isEmpty)).IsOctets (body.getD []) := by
  rcases body with _ | _ | ⟨b, rest⟩
  · rfl
  · rfl
  · show Json.IsOctets (b :: rest) (.str (Hex.encode (b :: rest)))
    rw [Json.IsOctets, if_neg (List.cons_ne_nil b rest)]
    exact ⟨_, rfl, Hex.writes_iff.mpr rfl⟩

/-- A notification has such a record exactly if its metrics have room in it. -/
theorem recordsBody_notification_iff (head : MessageHead) (channel : LifecycleChannel) (metrics : Dictionary Value)
    (body : Option Bytes) :
    (notification head channel metrics body).RecordsBody (body.getD []) ↔
      (Value.dict metrics.entries).levels ≤ 256 ∧ (Value.dict metrics.entries).HasForm := by
  constructor
  · rintro ⟨record, payload, value, hdump, -⟩
    exact (dump_eq_ok_iff.mp hdump).1
  · intro hroom
    exact ⟨_, _, _, dump_eq_ok_iff.mpr ⟨hroom, rfl⟩, rfl, rfl, isOctets_part body⟩

end Message

/-! ### Two raw messages of one topic -/

namespace TranslatorTable

variable {registry : Registry} {raw : RawMessage}

theorem translate_missing (registry : Registry) (raw : RawMessage) :
    (full registry).translate "lifecycle.missing" raw =
      (((LifecycleChannel.ofRaw registry .missing raw).mapError Fault.envelope).map
        (Category.notification .missing raw)).mapError fun cause => .rejected cause raw := by
  rw [show "lifecycle.missing" = (Category.lifecycle .missing).tag from rfl, translate_full_tag,
    Category.message_lifecycle]

theorem translate_missing_of_ok {channel : LifecycleChannel}
    (h : LifecycleChannel.ofRaw registry .missing raw = .ok channel) :
    (full registry).translate "lifecycle.missing" raw = .ok (Category.notification .missing raw channel) := by
  rw [translate_missing, h]
  rfl

theorem translate_missing_of_error {fault : EnvelopeFault}
    (h : LifecycleChannel.ofRaw registry .missing raw = .error fault) :
    (full registry).translate "lifecycle.missing" raw = .error (.rejected (.envelope fault) raw) := by
  rw [translate_missing, h]
  rfl

theorem exists_channel_of_missing {m : Message} (h : (full registry).translate "lifecycle.missing" raw = .ok m) :
    ∃ channel, Category.notification .missing raw channel = m := by
  rw [translate_missing, mapError_eq_ok] at h
  obtain ⟨channel, -, heq⟩ := map_eq_ok.mp h
  exact ⟨channel, heq⟩

/-- Two raw messages of one connector and topic are both notifications, or both rejected and for the same cause. A
notification has the metrics and the octets of its raw message, and it has a record with the octets exactly if the
metrics have forms and lie no more than 256 levels deep. -/
theorem missing_by_topic (registry : Registry) :
    (∀ raw other : RawMessage, raw.connectorName = other.connectorName → raw.topic = other.topic →
      (∃ m m', (full registry).translate "lifecycle.missing" raw = .ok m ∧
        (full registry).translate "lifecycle.missing" other = .ok m') ∨
      ∃ cause, (full registry).translate "lifecycle.missing" raw = .error (.rejected cause raw) ∧
        (full registry).translate "lifecycle.missing" other = .error (.rejected cause other)) ∧
    ∀ (raw : RawMessage) (m : Message), (full registry).translate "lifecycle.missing" raw = .ok m →
      m.Keeps raw ∧
        (m.RecordsBody (raw.body.getD []) ↔ raw.metricsValue.levels ≤ 256 ∧ raw.metricsValue.HasForm) := by
  constructor
  · intro raw other hname htopic
    have hchannel := LifecycleChannel.ofRaw_congr hname htopic registry .missing
    cases hother : LifecycleChannel.ofRaw registry .missing other with
    | ok channel =>
      exact .inl ⟨_, _, translate_missing_of_ok (hchannel.trans hother), translate_missing_of_ok hother⟩
    | error fault =>
      exact .inr ⟨_, translate_missing_of_error (hchannel.trans hother), translate_missing_of_error hother⟩
  · intro raw m hm
    obtain ⟨channel, rfl⟩ := exists_channel_of_missing hm
    have hkeeps := Message.keeps_notification .missing raw channel
    refine ⟨hkeeps, ?_⟩
    rw [← hkeeps.octets]
    exact Message.recordsBody_notification_iff _ channel raw.metrics raw.content?

/-- A device is missing, and the broker tells more. -/
def missingWith (body : Bytes) (metrics : Dictionary Value) : RawMessage :=
  { missingDevice with body := some body, metrics }

theorem ofRaw_missingWith (body : Bytes) (metrics : Dictionary Value) :
    LifecycleChannel.ofRaw .packaged .missing (missingWith body metrics) = .ok ⟨"acme", "gw-1", .missing⟩ := by
  have hsplit : Text.split "/" "$EDC/acme/gw-1/MQTT/MISSING" = ["$EDC", "acme", "gw-1", "MQTT", "MISSING"] := by
    decide +kernel
  exact LifecycleChannel.read_eq_ok_iff.mpr ⟨hsplit, rfl, by decide, by decide⟩

/-- Octets that are no text and a response code that is none, which would be the end of a reply. -/
def opaqueDevice : RawMessage := missingWith [0xFF] (.ofList [("response.code", .bool true)])

theorem missing_by_topic_opaque :
    ∃ m m', (full .packaged).translate "lifecycle.missing" missingDevice = .ok m ∧
      (full .packaged).translate "lifecycle.missing" opaqueDevice = .ok m' ∧
        m'.Keeps opaqueDevice ∧ m'.RecordsBody [0xFF] := by
  obtain ⟨halike, hkept⟩ := missing_by_topic .packaged
  have hchannel : LifecycleChannel.ofRaw .packaged .missing opaqueDevice = .ok _ := ofRaw_missingWith _ _
  have hform : opaqueDevice.metricsValue.HasForm := by
    show (Value.dict [("response.code", .bool true)]).Every _
    simp [Value.Every, Value.EveryEntry]
  rcases halike missingDevice opaqueDevice rfl rfl with ⟨m, m', hm, hm'⟩ | ⟨cause, -, hrejected⟩
  · obtain ⟨hkeeps, hrecords⟩ := hkept _ m' hm'
    exact ⟨m, m', hm, hm', hkeeps, hrecords.mpr ⟨by decide, hform⟩⟩
  · cases (translate_missing_of_ok hchannel).symm.trans hrejected

theorem not_forall_recordsBody :
    ¬∀ (registry : Registry) (raw : RawMessage) (m : Message),
      (full registry).translate "lifecycle.missing" raw = .ok m → m.RecordsBody (raw.body.getD []) := by
  intro h
  have hm := translate_missing_of_ok (ofRaw_missingWith [0x00, 0xFF] (.ofList [("k", .nestedLists 255)]))
  -- the metrics have 257 levels, one more than a record has room for
  have hlevels : (Value.dict [("k", .nestedLists 255)]).levels ≤ 256 :=
    ((Message.recordsBody_notification_iff _ _ _ _).mp (h _ _ _ hm)).1
  rw [Value.levels_dict_nestedLists] at hlevels
  omega

end TranslatorTable

end DeviceRelay
