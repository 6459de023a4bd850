import DeviceRelay.Proofs.Outcome
import DeviceRelay.Publisher

/-!
# What a publisher publishes

A message or report leads to one publication or none: one exactly if it has a record, the record may be written out,
and the broker takes the document.

    message ──dump──▶ record ──isWritable──▶ document ──reception.holds──▶ publication

* `Publisher.publications_publishMessage`, `Publisher.publications_publishReport`
-/

namespace DeviceRelay.Publisher

/-- The document of a message with the record. -/
def messageDocument (p : Publisher) (m : Message) (record : Json) : Publication :=
  document p.translatedTopic record (some m.head.clientId)

/-- The document of a report with the record. -/
def reportDocument (p : Publisher) (r : ErrorReport) (record : Json) : Publication :=
  document p.errorTopic record (some r.requestId)

/-- The document of a message has the client as its key, if that has a name. -/
theorem messageDocument_eq (p : Publisher) {m : Message} (h : m.head.clientId ≠ "") (record : Json) :
    p.messageDocument m record =
      ⟨p.translatedTopic, Charset.Utf8.ofText (record.write Json.published),
        some (Charset.Utf8.ofText m.head.clientId)⟩ := by
  simp [messageDocument, document, keyOctets, Option.filter, h]

variable {p : Publisher} {reception : Reception} {topic text : String} {content record : Json} {key : Option String}

theorem publications_send (publication : Publication) :
    (send reception publication).publications = if reception.holds then [publication] else [] := by
  cases reception <;> rfl

theorem publications_offer :
    (offer reception topic content key).publications =
      if content.isWritable ∧ reception.holds then [document topic content key] else [] := by
  rw [offer]
  by_cases h : content.isWritable = true
  · rw [if_pos h, publications_send]
    simp [h]
  · rw [if_neg h]
    simp [h, handoverFailure]

theorem publications_offerAs :
    (offerAs text reception topic content key).publications =
      if content.isWritable ∧ reception.holds then [document topic content key] else [] := by
  rw [offerAs, Outcome.publications_andThen, Outcome.publications_logged, List.append_nil, publications_offer]

/-- A message without a record is not published. -/
theorem publications_publishMessage_of_error {m : Message} {fault : RecordFault} (h : m.dump = .error fault) :
    (p.publishMessage reception m).publications = [] := by
  rw [publishMessage, h]
  rfl

/-- A message with a record is published if it may be written out and the broker takes it. -/
theorem publications_publishMessage {m : Message} (h : m.dump = .ok record) :
    (p.publishMessage reception m).publications =
      if record.isWritable ∧ reception.holds then [p.messageDocument m record] else [] := by
  rw [publishMessage, h]
  exact publications_offerAs

/-- Without a topic of errors no report is published. -/
theorem publications_publishReport_of_empty {r : ErrorReport} (h : p.errorTopic = "") :
    (p.publishReport reception r).publications = [] := by
  rw [publishReport, if_pos h]
  rfl

/-- A report without a record is not published. -/
theorem publications_publishReport_of_error {r : ErrorReport} {fault : RecordFault} (h : r.dump = .error fault) :
    (p.publishReport reception r).publications = [] := by
  rw [publishReport]
  split
  · rfl
  · rw [h]
    rfl

/-- A report with a record is published, where there is a topic of errors, if it may be written out and the broker
takes it. -/
theorem publications_publishReport {r : ErrorReport} (htopic : p.errorTopic ≠ "") (h : r.dump = .ok record) :
    (p.publishReport reception r).publications =
      if record.isWritable ∧ reception.holds then [p.reportDocument r record] else [] := by
  rw [publishReport, if_neg htopic, h]
  exact publications_offerAs

end DeviceRelay.Publisher
