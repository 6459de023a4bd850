import DeviceRelay.Proofs.ErrorReport
import DeviceRelay.Proofs.Message.Integers
import DeviceRelay.Proofs.Service

/-!
# What a run publishes

Over a run of calls the broker gets exactly what the calls led to, in their order: one document for each message and
each rejection that it takes, and nothing else. One thing can stand in the way, which no rule mentions: values that lie
inside too many others have no form in a record, and what is not written is not published.

    message    ──record──▶ document      metrics of 256 levels at most
    rejection  ──report──▶ document      metrics and metadata of 255 levels at most

* `Service.accounted_process_iff` — one call.
* `Service.run_accounted_iff` — a run of calls.
-/

namespace DeviceRelay

namespace Value

/-- A value of a kind that connectors hand over: no timestamp and no thing, an integer that may be written out, and a
dictionary with distinct names. -/
def IsOrdinary : Value → Prop
  | .int n => Text.isWritable n = true
  | .dict entries => (namesOf entries).Nodup
  | .instant _ | .object => False
  | _ => True

theorem isWritable_of_ordinary {v : Value} (h : v.Every IsOrdinary) : v.isWritable = true := by
  induction v using Value.induction with
  | list items ih | tuple items ih =>
    simp only [every_list, every_tuple] at h
    rw [isWritable, allWritable_eq_all, List.all_eq_true]
    exact fun v hv => ih v hv (h.2 v hv)
  | dict entries ih =>
    exact isWritable_dict_iff.mpr fun entry he => ih entry he ((every_dict.mp h).2 entry he)
  | int n => exact h
  | _ => rfl

theorem hasForm_of_ordinary {v : Value} (h : v.Every IsOrdinary) : v.HasForm :=
  h.imp fun _ hu => by rintro rfl; exact hu

theorem namesDistinct_of_ordinary {v : Value} (h : v.Every IsOrdinary) : v.Every NamesDistinct := by
  refine h.imp fun u hu => ?_
  cases u with
  | dict entries => exact hu
  | _ => trivial

end Value

/-- The metrics and metadata are values of the kinds that connectors hand over. -/
structure RawMessage.Ordinary (raw : RawMessage) : Prop where
  metrics : raw.metricsValue.Every Value.IsOrdinary
  metadata : raw.metadataValue.Every Value.IsOrdinary

namespace Service

/-- The publications of a call are those that its translation leads to: a message goes out under its topic with its
client as the key, which is not empty, and a rejection under the topic of errors, unless there is none. What the broker
does not take is not there, and of other failures nothing is. -/
def Call.Accounted (p : Publisher) (call : Call) (translation : Except Failure Message)
    (publications : List Publication) : Prop :=
  match translation with
  | .ok m =>
    m.head.clientId ≠ "" ∧
      if call.reception.holds then
        ∃ content, publications = [⟨p.translatedTopic, content, some (Charset.Utf8.ofText m.head.clientId)⟩]
      else publications = []
  | .error (.rejected _ _) =>
    if call.reception.holds ∧ p.errorTopic ≠ "" then
      ∃ content key, publications = [⟨p.errorTopic, content, key⟩]
    else publications = []
  | .error _ => publications = []

/-- What has to be written of a call, if the broker is to have it, lies not too deep: the metrics of a message, or the
metrics and the metadata of a rejected one. -/
def Call.Fits (registry : Registry) (p : Publisher) (call : Call) : Prop :=
  call.reception.holds →
    match (TranslatorTable.full registry).translate call.category call.raw with
    | .ok m => m.metricsValue.levels ≤ 256
    | .error (.rejected _ kept) =>
      p.errorTopic ≠ "" → kept.metricsValue.levels ≤ 255 ∧ kept.metadataValue.levels ≤ 255
    | .error _ => True

variable {registry : Registry} {p : Publisher} {call : Call}

/-- A translated message of ordinary metrics has a record that may be written out, as far as it has one. -/
theorem publications_publish_of_ordinary {m : Message} {moment : Moment}
    (h : (TranslatorTable.full registry).translate call.category call.raw = .ok m) (hraw : call.raw.Ordinary) :
    ((ofTable (.full registry) (some p)).publish moment m).publications =
      if m.metricsValue.levels ≤ 256 ∧ moment.reception.holds then [p.messageDocument m m.record] else [] := by
  obtain ⟨c, -, hm⟩ := TranslatorTable.translate_full_eq_ok_iff.mp h
  have hmetrics : m.metricsValue.Every Value.IsOrdinary :=
    Value.every_dict.mpr ⟨m.metrics.distinct, fun entry he =>
      (Value.every_dict.mp hraw.metrics).2 entry (Category.metrics_subset_of_message hm he)⟩
  have hwritable : m.record.isWritable = true := m.isWritable_record_iff.mpr
    ⟨Value.isWritable_of_ordinary hmetrics,
      Category.isWritable_of_message hm (Value.isWritable_of_ordinary hraw.metrics)⟩
  show (p.publishMessage moment.reception m).publications = _
  by_cases hlevels : m.metricsValue.levels ≤ 256
  · have hdump : m.dump = .ok m.record :=
      Message.dump_eq_ok_iff.mpr ⟨⟨hlevels, Value.hasForm_of_ordinary hmetrics⟩, rfl⟩
    rw [Publisher.publications_publishMessage hdump]
    simp [hwritable, hlevels]
  · cases hdump : m.dump with
    | error fault =>
      rw [Publisher.publications_publishMessage_of_error hdump, if_neg fun h => hlevels h.1]
    | ok record => exact absurd (Message.dump_eq_ok_iff.mp hdump).1.1 hlevels

/-- A rejection of ordinary metrics and metadata has a report that may be written out, as far as it has one. -/
theorem publications_report_of_ordinary {category : String} {cause : Fault} {raw : RawMessage} {moment : Moment}
    (hraw : raw.Ordinary) (htopic : p.errorTopic ≠ "") :
    ((ofTable (.full registry) (some p)).report moment category cause raw).publications =
      if (raw.metricsValue.levels ≤ 255 ∧ raw.metadataValue.levels ≤ 255) ∧ moment.reception.holds then
        [Publisher.document p.errorTopic
          (ErrorReport.rejectionRecord moment.now moment.identifier category cause raw) (some moment.identifier)]
      else [] := by
  have hdump (j : Json) := ErrorReport.dump_ofRejection_eq_ok_iff moment.now moment.identifier category cause (j := j)
    (Value.namesDistinct_of_ordinary hraw.metrics) (Value.namesDistinct_of_ordinary hraw.metadata)
  have hwritable := ErrorReport.isWritable_rejectionRecord moment.now moment.identifier category cause
    (Value.isWritable_of_ordinary hraw.metrics) (Value.isWritable_of_ordinary hraw.metadata)
  by_cases hlevels : raw.metricsValue.levels ≤ 255 ∧ raw.metadataValue.levels ≤ 255
  · have hroom : raw.HasRoom Value.recordLevels :=
      ⟨hlevels.1, Value.hasForm_of_ordinary hraw.metrics, hlevels.2, Value.hasForm_of_ordinary hraw.metadata⟩
    obtain ⟨r, hr, hrecord⟩ := bind_eq_ok.mp ((hdump _).mpr ⟨hroom, rfl⟩)
    rw [publications_report rfl htopic hr hrecord]
    obtain ⟨d, -, rfl⟩ := map_eq_ok.mp hr
    simp [hwritable, hlevels, Publisher.reportDocument]
  · rw [if_neg fun h => hlevels h.1]
    refine publications_report_of_error rfl (.inr ?_)
    cases h : (ErrorReport.ofRejection moment.now moment.identifier category cause raw).bind ErrorReport.dump with
    | error fault => exact ⟨fault, rfl⟩
    | ok record =>
      have hroom := ((hdump _).mp h).1
      exact absurd ⟨hroom.metrics_levels, hroom.metadata_levels⟩ hlevels

/-! ### Calls -/

/-- A call leaves what its translation leads to exactly if what has to be written for it lies not too deep. -/
theorem accounted_process_iff (registry : Registry) (p : Publisher) {call : Call} (hraw : call.raw.Ordinary)
    (now : Timestamp) (identifier : String) :
    call.Accounted p ((TranslatorTable.full registry).translate call.category call.raw)
        ((ofTable (.full registry) (some p)).process ⟨now, identifier, call.reception⟩ call.category
          call.raw).publications ↔
      call.Fits registry p := by
  unfold Call.Accounted Call.Fits
  split
  · next m hm =>
    rw [process_of_ok _ hm, Outcome.publications_map, publications_publish_of_ordinary hm hraw]
    have hclient := (TranslatorTable.message_lawful hm).clientId_ne
    by_cases hholds : call.reception.holds = true
    · by_cases hlevels : m.metricsValue.levels ≤ 256
      · simp [hholds, hlevels, hclient, Publisher.messageDocument_eq p hclient]
      · simp [hholds, hlevels]
    · simp [hholds, hclient]
  · next cause kept hkept =>
    obtain rfl := TranslatorTable.kept_of_translate_full hkept
    rw [process_of_rejected _ hkept, Outcome.publications_andThen, Outcome.publications_logged, List.nil_append,
      Outcome.publications_map]
    by_cases htopic : p.errorTopic = ""
    · rw [publications_report_of_error rfl (.inl htopic)]
      simp [htopic]
    rw [publications_report_of_ordinary hraw htopic]
    by_cases hholds : call.reception.holds = true
    · by_cases hlevels : call.raw.metricsValue.levels ≤ 255 ∧ call.raw.metadataValue.levels ≤ 255
      · simp [hholds, hlevels, htopic, Publisher.document]
      · simp [hholds, hlevels, htopic]
    · simp [hholds]
  · next failure hother hfailure =>
    rw [process_of_error _ hfailure hother]
    simp

/-- What a run of calls leaves with the broker is, call by call, what their translations lead to, exactly if what has to
be written for the calls lies not too deep. -/
theorem run_accounted_iff (registry : Registry) (p : Publisher) (now : Timestamp) (identifier : Nat → String)
    {calls : List Call} (hcalls : ∀ call ∈ calls, call.raw.Ordinary) :
    List.Forall₂ (fun call outcome => call.Accounted p
        ((TranslatorTable.full registry).translate call.category call.raw) outcome.publications)
      calls ((ofTable (.full registry) (some p)).run now identifier calls) ↔
    ∀ call ∈ calls, call.Fits registry p :=
  Outcome.forall₂_inTurn_iff
    (fun call hcall used => accounted_process_iff registry p (hcalls call hcall) now (identifier used)) 0

/-- A call whose metrics and metadata lie not too deep for a report does not lie too deep for a message. -/
theorem Call.fits_of_levels (registry : Registry) (p : Publisher) {call : Call}
    (hmetrics : call.raw.metricsValue.levels ≤ 255) (hmetadata : call.raw.metadataValue.levels ≤ 255) :
    call.Fits registry p := by
  intro _
  split
  · next m hm =>
    obtain ⟨c, -, hm⟩ := TranslatorTable.translate_full_eq_ok_iff.mp hm
    have hlevels := Value.levels_dict_le_of_subset (Category.metrics_subset_of_message hm)
    exact Nat.le_trans hlevels (Nat.le_succ_of_le hmetrics)
  · next cause kept hkept =>
    obtain rfl := TranslatorTable.kept_of_translate_full hkept
    exact fun _ => ⟨hmetrics, hmetadata⟩
  · trivial

/-- Metrics with octets inside other values. -/
def packedMetrics : Dictionary Value :=
  .ofList [("readings", .tuple [.bytes [1, 2], .list [.buffer [3], .float .nan]])]

/-- A reply, one that is none, one that the broker refuses, and one that nobody translates. -/
def mixedCalls : List Call :=
  [⟨"keystore.keystores", Envelope.framed none packedMetrics, .taken none⟩,
    ⟨"keystore.keystores", Envelope.framed (some [0x7b]) packedMetrics, .taken none⟩,
    ⟨"keystore.keystores", Envelope.framed none packedMetrics, .refused "Local: Queue full"⟩,
    ⟨"keystore", Envelope.framed none packedMetrics, .taken none⟩]

theorem run_accounted_iff_mixed :
    List.Forall₂ (fun call outcome => call.Accounted .standard
        ((TranslatorTable.full .packaged).translate call.category call.raw) outcome.publications)
      mixedCalls ((ofTable (.full .packaged) (some .standard)).run (.utc 0) toString mixedCalls) := by
  have hpacked (body : Option Bytes) : (Envelope.framed body packedMetrics).Ordinary := by
    constructor
    · show (Value.dict [("readings", .tuple [.bytes [1, 2], .list [.buffer [3], .float .nan]])]).Every _
      simp [Value.Every, Value.EveryItem, Value.EveryEntry, Value.IsOrdinary, namesOf]
    · show (Value.dict []).Every _
      simp [Value.every_dict, Value.IsOrdinary, namesOf]
  refine (run_accounted_iff .packaged .standard (.utc 0) toString ?_).mpr ?_
  · simp [mixedCalls, hpacked]
  · intro call hcall
    simp only [mixedCalls, List.mem_cons, List.not_mem_nil, or_false] at hcall
    rcases hcall with rfl | rfl | rfl | rfl <;> exact Call.fits_of_levels _ _ (by decide) (by decide)

/-! ### A report that goes missing -/

/-- A message of an unknown connector, with so many lists inside one another. -/
def strayMessage (n : Nat) : RawMessage :=
  { Envelope.framed none (.ofList [("k", .nestedLists n)]) with connectorName := "nobody" }

theorem translate_strayMessage (n : Nat) :
    (TranslatorTable.full .packaged).translate "keystore.keystores" (strayMessage n) =
      .error (.rejected (.envelope (.unknownConnector "nobody")) (strayMessage n)) :=
  rfl

theorem ordinary_strayMessage (n : Nat) : (strayMessage n).Ordinary := by
  constructor
  · show (Value.dict [("k", .nestedLists n)]).Every _
    have hnested := Value.every_nestedLists (p := Value.IsOrdinary) (fun _ => trivial) n
    simp [Value.every_dict, Value.IsOrdinary, namesOf, hnested]
  · show (Value.dict []).Every _
    simp [Value.every_dict, Value.IsOrdinary, namesOf]

theorem not_forall_run_accounted :
    ¬∀ (registry : Registry) (p : Publisher) (now : Timestamp) (identifier : Nat → String) (calls : List Call),
      (∀ call ∈ calls, call.raw.Ordinary) →
      List.Forall₂ (fun call outcome => call.Accounted p
          ((TranslatorTable.full registry).translate call.category call.raw) outcome.publications)
        calls ((ofTable (.full registry) (some p)).run now identifier calls) := by
  intro h
  -- the metrics have 256 levels, one more than a report has room for
  have hrun := h .packaged .standard (.utc 0) toString [⟨"keystore.keystores", strayMessage 254, .taken none⟩]
    (List.forall_mem_singleton.mpr (ordinary_strayMessage 254))
  cases hrun with
  | cons haccounted _ =>
    have hfits := (accounted_process_iff _ _ (ordinary_strayMessage 254) _ _).mp haccounted
    unfold Call.Fits at hfits
    rw [translate_strayMessage] at hfits
    have hlevels := (hfits rfl (by decide)).1
    have hdeep : (strayMessage 254).metricsValue.levels = 256 := Value.levels_dict_nestedLists "k" 254
    omega

end Service

end DeviceRelay
