import DeviceRelay.ErrorReport
import DeviceRelay.Proofs.Value.Recorded

/-!
# Reports of rejected messages

A rejected message is kept as a record, and the report of it holds that record. The report is one level deeper, so
there are messages that can be kept and not reported.

    metrics, metadata ──levels ≤ 256──▶ kept message ──levels ≤ 255──▶ report

* `RawMessage.logMembers_eq_ok_iff` — which messages can be kept, and as what.
* `ErrorReport.dump_ofRejection_eq_ok_iff` — which messages can be reported: the report holds what is kept.
-/

namespace DeviceRelay

namespace RawMessage

/-- The metrics as one value. -/
def metricsValue (raw : RawMessage) : Value := .dict raw.metrics.entries

/-- The metadata as one value. -/
def metadataValue (raw : RawMessage) : Value := .dict raw.metadata.entries

/-- The members of the form in which the message is kept. -/
def keptMembers (raw : RawMessage) : List (String × Json) :=
  [("connector_name", .str raw.connectorName), ("topic", .str raw.topic), ("metrics", raw.metricsValue.form),
    ("received_on", .str raw.receivedOn.text), ("sent_on", .ofText? (raw.sentOn.map Timestamp.text)),
    ("metadata", raw.metadataValue.form), ("body_hex", .ofText? raw.bodyHex)]

/-- The metrics and the metadata have forms, and no more levels than that. -/
structure HasRoom (raw : RawMessage) (levels : Nat) : Prop where
  metrics_levels : raw.metricsValue.levels ≤ levels
  metrics_form : raw.metricsValue.HasForm
  metadata_levels : raw.metadataValue.levels ≤ levels
  metadata_form : raw.metadataValue.HasForm

/-- A message can be kept exactly if its metrics and metadata have room. -/
theorem logMembers_eq_ok_iff {raw : RawMessage} {members : List (String × Json)} :
    raw.logMembers = .ok members ↔ raw.HasRoom (Value.recordLevels + 1) ∧ raw.keptMembers = members := by
  have hdump (values : Dictionary Value) (j : Json) : dumpValues values = .ok j ↔
      ((Value.dict values.entries).levels ≤ Value.recordLevels + 1 ∧ (Value.dict values.entries).HasForm) ∧
        (Value.dict values.entries).form = j :=
    Value.recordedDictionary?_map_hexed_eq_ok_iff
  constructor
  · intro h
    obtain ⟨metrics, hmetrics, h⟩ := bind_eq_ok.mp h
    obtain ⟨metadata, hmetadata, h⟩ := bind_eq_ok.mp h
    obtain ⟨⟨hlevels, hform⟩, rfl⟩ := (hdump _ _).mp hmetrics
    obtain ⟨⟨hlevels', hform'⟩, rfl⟩ := (hdump _ _).mp hmetadata
    exact ⟨⟨hlevels, hform, hlevels', hform'⟩, Except.ok.inj h⟩
  · rintro ⟨⟨hlevels, hform, hlevels', hform'⟩, rfl⟩
    show (dumpValues raw.metrics).bind _ = _
    rw [(hdump _ _).mpr ⟨⟨hlevels, hform⟩, rfl⟩]
    show (dumpValues raw.metadata).bind _ = _
    rw [(hdump _ _).mpr ⟨⟨hlevels', hform'⟩, rfl⟩]
    rfl

end RawMessage

namespace ErrorReport

/-- The kept form of a message, as a dictionary. -/
def keptForm (raw : RawMessage) : Dictionary Value :=
  .ofList (raw.keptMembers.map fun member => (member.1, Value.ofJson member.2))

theorem keptForm_entries (raw : RawMessage) :
    (keptForm raw).entries = raw.keptMembers.map fun member => (member.1, Value.ofJson member.2) :=
  lastEntries_of_nodup <| by
    rw [namesOf_map]
    show ["connector_name", "topic", "metrics", "received_on", "sent_on", "metadata", "body_hex"].Nodup
    decide

theorem kept_eq_ok_iff {raw : RawMessage} {d : Dictionary Value} :
    kept raw = .ok d ↔ raw.HasRoom (Value.recordLevels + 1) ∧ keptForm raw = d :=
  map_eq_ok_iff_of fun _ => RawMessage.logMembers_eq_ok_iff

variable (now : Timestamp) (identifier category : String) (cause : Fault) {raw : RawMessage}

/-- The record of the report of a rejected message. -/
def rejectionRecord (now : Timestamp) (identifier category : String) (cause : Fault) (raw : RawMessage) : Json :=
  .obj [("request_id", .str identifier), ("timestamp", .str now.text), ("service", .str serviceName),
    ("error", .str cause.message), ("error_type", .str cause.kindName), ("category", .str category),
    ("original_message", .obj raw.keptMembers)]

/-- What is read of a text, or null, has that form and one level. -/
theorem ofJson_ofText? (s : Option String) :
    (Value.ofJson (.ofText? s)).levels = 1 ∧ (Value.ofJson (.ofText? s)).form = .ofText? s := by
  cases s <;> exact ⟨rfl, rfl⟩

theorem recordedDictionary?_keptForm_eq_ok_iff (hmetrics : raw.metricsValue.Every Value.NamesDistinct)
    (hmetadata : raw.metadataValue.Every Value.NamesDistinct) {j : Json} :
    Value.recordedDictionary? (keptForm raw) = .ok j ↔
      (raw.metricsValue.levels ≤ Value.recordLevels ∧ raw.metadataValue.levels ≤ Value.recordLevels) ∧
        .obj raw.keptMembers = j := by
  rw [Value.recordedDictionary?_eq_ok_iff (keptForm_entries raw)]
  simp [RawMessage.keptMembers, ofJson_ofText?, Value.levels_ofJson_form hmetrics, Value.levels_ofJson_form hmetadata,
    Value.form_ofJson_form hmetrics, Value.form_ofJson_form hmetadata, Value.ofJson, Value.levels, Value.form,
    Value.recordLevels]

/-- A rejection can be reported exactly if the message can be kept one level deeper. The report holds the message as
it is kept. -/
theorem dump_ofRejection_eq_ok_iff (hmetrics : raw.metricsValue.Every Value.NamesDistinct)
    (hmetadata : raw.metadataValue.Every Value.NamesDistinct) {j : Json} :
    (ofRejection now identifier category cause raw).bind dump = .ok j ↔
      raw.HasRoom Value.recordLevels ∧ rejectionRecord now identifier category cause raw = j := by
  rw [ofRejection, bind_map, bind_eq_ok]
  constructor
  · rintro ⟨d, hd, h⟩
    obtain ⟨hroom, rfl⟩ := kept_eq_ok_iff.mp hd
    obtain ⟨⟨hlevels, hlevels'⟩, hj⟩ :=
      (map_eq_ok_iff_of fun _ => recordedDictionary?_keptForm_eq_ok_iff hmetrics hmetadata).mp h
    exact ⟨{ hroom with metrics_levels := hlevels, metadata_levels := hlevels' }, hj⟩
  · rintro ⟨hroom, rfl⟩
    have hkept : raw.HasRoom (Value.recordLevels + 1) :=
      { hroom with
        metrics_levels := Nat.le_succ_of_le hroom.metrics_levels
        metadata_levels := Nat.le_succ_of_le hroom.metadata_levels }
    refine ⟨_, kept_eq_ok_iff.mpr ⟨hkept, rfl⟩, ?_⟩
    exact (map_eq_ok_iff_of fun _ => recordedDictionary?_keptForm_eq_ok_iff hmetrics hmetadata).mpr
      ⟨⟨hroom.metrics_levels, hroom.metadata_levels⟩, rfl⟩

/-- The record of a report may be written out if the metrics and metadata may. -/
theorem isWritable_rejectionRecord (hmetrics : raw.metricsValue.isWritable = true)
    (hmetadata : raw.metadataValue.isWritable = true) :
    (rejectionRecord now identifier category cause raw).isWritable = true := by
  rw [← Value.isWritable_form_iff, Json.isWritable_iff] at hmetrics hmetadata
  rw [Json.isWritable_iff]
  simp [rejectionRecord, RawMessage.keptMembers, Json.Every, Json.everyMember_iff, hmetrics, hmetadata,
    Json.every_ofText? Json.plain_writable, Json.Writable]

end ErrorReport

end DeviceRelay
