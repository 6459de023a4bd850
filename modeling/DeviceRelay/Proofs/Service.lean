import DeviceRelay.Proofs.Publisher
import DeviceRelay.Proofs.Refusal
import DeviceRelay.Service

/-!
# What the service passes on

How a call ends is decided by the translator. A failure of the translator passes through as it is, whatever becomes
of the report of it; only the publication of a message may still turn a success into a failure.

    translator      call                        publications
    message m       m, or why it is not sent    of m
    rejection       the rejection               of its report
    other failure   the failure                 none

* `Service.process_follows_translation` — whatever the translators, the publisher and the broker do.
-/

namespace DeviceRelay.Service

variable (s : Service) (moment : Moment)

/-- The publication is the document of the message. -/
def Announces (m : Message) (publication : Publication) : Prop :=
  ∃ p ∈ s.publisher, ∃ record, m.dump = .ok record ∧ publication = p.messageDocument m record

/-- The publication is the document of a report of the rejection. -/
def Reports (category : String) (cause : Fault) (raw : RawMessage) (publication : Publication) : Prop :=
  ∃ p ∈ s.publisher, p.errorTopic ≠ "" ∧
    ∃ report, ErrorReport.ofRejection moment.now moment.identifier category cause raw = .ok report ∧
      ∃ record, report.dump = .ok record ∧ publication = p.reportDocument report record

/-- What is published for a message is its document. -/
theorem announces_of_mem_publish {m : Message} {publication : Publication}
    (h : publication ∈ (s.publish moment m).publications) : s.Announces m publication := by
  unfold publish at h
  split at h
  · cases h
  · next p hp =>
    cases hdump : m.dump with
    | error fault =>
      rw [Publisher.publications_publishMessage_of_error hdump] at h
      cases h
    | ok record =>
      rw [Publisher.publications_publishMessage hdump] at h
      split at h
      · exact ⟨p, hp, record, hdump, List.mem_singleton.mp h⟩
      · cases h

section Report

variable {s : Service} {moment : Moment} {category : String} {cause : Fault} {raw : RawMessage} {p : Publisher}

theorem publications_report_of_none (h : s.publisher = none) :
    (s.report moment category cause raw).publications = [] := by
  rw [report, h]
  rfl

/-- Without a topic of errors, or without a record of the report, nothing is published for a rejection. -/
theorem publications_report_of_error (hp : s.publisher = some p)
    (h : p.errorTopic = "" ∨ ∃ fault,
      (ErrorReport.ofRejection moment.now moment.identifier category cause raw).bind ErrorReport.dump = .error fault) :
    (s.report moment category cause raw).publications = [] := by
  rw [report, hp]
  dsimp only
  rw [Outcome.publications_andThen, Outcome.publications_logged, List.append_nil]
  cases hr : ErrorReport.ofRejection moment.now moment.identifier category cause raw with
  | error fault => rfl
  | ok r =>
    rw [hr] at h
    rcases h with htopic | ⟨fault, hfault⟩
    · exact Publisher.publications_publishReport_of_empty htopic
    · exact Publisher.publications_publishReport_of_error hfault

/-- What is published for a rejection is the document of its report, if the broker takes it. -/
theorem publications_report (hp : s.publisher = some p) (htopic : p.errorTopic ≠ "") {r : ErrorReport} {record : Json}
    (hr : ErrorReport.ofRejection moment.now moment.identifier category cause raw = .ok r)
    (hrecord : r.dump = .ok record) :
    (s.report moment category cause raw).publications =
      if record.isWritable ∧ moment.reception.holds then [p.reportDocument r record] else [] := by
  rw [report, hp]
  dsimp only
  rw [Outcome.publications_andThen, Outcome.publications_logged, List.append_nil, hr]
  exact Publisher.publications_publishReport htopic hrecord

theorem reports_of_mem_report {publication : Publication}
    (h : publication ∈ (s.report moment category cause raw).publications) :
    s.Reports moment category cause raw publication := by
  cases hp : s.publisher with
  | none =>
    rw [publications_report_of_none hp] at h
    cases h
  | some p =>
    by_cases htopic : p.errorTopic = ""
    · rw [publications_report_of_error hp (.inl htopic)] at h
      cases h
    cases hrecord :
        (ErrorReport.ofRejection moment.now moment.identifier category cause raw).bind ErrorReport.dump with
    | error fault =>
      rw [publications_report_of_error hp (.inr ⟨fault, hrecord⟩)] at h
      cases h
    | ok record =>
      obtain ⟨r, hr, hrecord⟩ := bind_eq_ok.mp hrecord
      rw [publications_report hp htopic hr hrecord] at h
      split at h
      · exact ⟨p, hp, htopic, r, hr, record, hrecord, List.mem_singleton.mp h⟩
      · cases h

end Report

/-! ### Calls -/

section Process

variable {s : Service} {category : String} {raw : RawMessage}

theorem process_of_ok {m : Message} (h : s.translate category raw = .ok m) :
    s.process moment category raw = (s.publish moment m).map fun result => result.map fun () => m := by
  rw [process, h]

theorem process_of_rejected {cause : Fault} {kept : RawMessage}
    (h : s.translate category raw = .error (.rejected cause kept)) :
    s.process moment category raw =
      (Outcome.logged [rejectionEntry category raw (.rejected cause kept)] ()).andThen fun () =>
        (s.report moment category cause kept).map fun () => .error (.rejected cause kept) := by
  rw [process, h]

theorem process_of_error {failure : Failure} (h : s.translate category raw = .error failure)
    (hother : ∀ cause kept, failure ≠ .rejected cause kept) :
    s.process moment category raw = .pure (.error failure) := by
  rw [process, h]
  cases failure with
  | rejected cause kept => exact absurd rfl (hother cause kept)
  | _ => rfl

end Process

/-- A call ends as its translation does. A rejection and any other failure of the translator pass through unchanged,
whether or not a report goes out; a message is returned unless publishing it fails, and then that is the failure. What
is published is never the other thing: no report of a message that was translated, no message of a rejection, and
nothing at all of another failure. -/
theorem process_follows_translation (category : String) (raw : RawMessage) :
    match s.translate category raw with
    | .ok m =>
      (s.process moment category raw).result = (s.publish moment m).result.map (fun () => m) ∧
        ∀ publication ∈ (s.process moment category raw).publications, s.Announces m publication
    | .error (.rejected cause kept) =>
      (s.process moment category raw).result = .error (.rejected cause kept) ∧
        ∀ publication ∈ (s.process moment category raw).publications,
          s.Reports moment category cause kept publication
    | .error failure =>
      (s.process moment category raw).result = .error failure ∧
        (s.process moment category raw).publications = [] := by
  split
  · next m h =>
    rw [process_of_ok moment h]
    exact ⟨rfl, fun publication => s.announces_of_mem_publish moment⟩
  · next cause kept h =>
    rw [process_of_rejected moment h]
    exact ⟨rfl, fun publication => reports_of_mem_report⟩
  · next failure hother h =>
    rw [process_of_error moment h hother]
    exact ⟨rfl, rfl⟩

end DeviceRelay.Service
