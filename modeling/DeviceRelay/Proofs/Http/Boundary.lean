import DeviceRelay.Http.Boundary
import DeviceRelay.Proofs.Http.Outward
import DeviceRelay.Proofs.Service
import DeviceRelay.Registry.Packaged

/-!
# What a client learns

A client that submits a raw message learns how its translation ended, and of what goes wrong inside no more than a code.

    message              200, the record of the message, if it is presentable
    unknown category     404, the category
    any other failure    500, the code of the failure

A message may be translated and not be presentable: its metrics may lie too deep for a record, and metrics of reserved
names never leave.

* `Http.Exchange.answered_iff` — which outcomes are answered so, and what a response with status 500 is up to.
-/

namespace DeviceRelay

/-- The record of the message exists, may be written out, and leaves as it is. -/
structure Message.Presentable (m : Message) : Prop where
  levels : m.metricsValue.levels ≤ 256
  hasForm : m.metricsValue.HasForm
  metrics : m.metricsValue.isWritable = true
  ints : ∀ n ∈ m.ints, Text.isWritable n = true
  names : m.metricsValue.Every (Value.NamesSatisfy Http.Outward.Leaves)

namespace Http

namespace Response

/-- The code that the body of a response tells. -/
def errorCode? (r : Response) : Option Json :=
  match r.body with
  | .obj members => Json.last? "errorCode" members
  | _ => none

/-- The response to a failure that stays inside, of which no more than the code is told. -/
def inside (code : Option String) : Response := ⟨500, failureBody 500 internalMessage code⟩

theorem errorCode?_inside (code : Option String) : (inside code).errorCode? = some (.ofText? code) := rfl

/-- The response to a failure is the same for all failures of one code, unless it is about the category. -/
theorem ofFailure_eq_inside {f : Failure} (h : ∀ category, f ≠ .notFound category) : ofFailure f = inside f.code? := by
  cases f with
  | notFound category => exact absurd rfl (h category)
  | _ => rfl

end Response

/-! ### The response to a message -/

/-- A message is answered with its record, as it leaves, or like a failure without a code. -/
theorem result_respond_ok (path : List Char) (m : Message) :
    (∃ record, m.dump = .ok record ∧ (Outward.ofJson record).isWritable = true ∧
        (respond path (.ok m)).result = ⟨200, Outward.ofJson record⟩) ∨
      (∀ record, m.dump = .ok record → (Outward.ofJson record).isWritable = false) ∧
        (respond path (.ok m)).result = .inside none := by
  rw [respond]
  cases hdump : m.dump with
  | error fault => exact .inr ⟨nofun, Response.ofFailure_eq_inside nofun⟩
  | ok record =>
    by_cases hwritable : (Outward.ofJson record).isWritable = true
    · refine .inl ⟨record, rfl, hwritable, ?_⟩
      dsimp only [Response.ofRecord]
      rw [if_pos hwritable]
      rfl
    · refine .inr ⟨?_, ?_⟩
      · rintro _ ⟨rfl⟩
        exact Bool.eq_false_iff.mpr hwritable
      · dsimp only [Response.ofRecord]
        rw [if_neg hwritable]
        exact Response.ofFailure_eq_inside nofun

/-- A message is answered with exactly its record if and only if it is presentable. -/
theorem respond_ok_iff (path : List Char) (m : Message) :
    (respond path (.ok m)).result.status = 200 ∧ m.dump = .ok (respond path (.ok m)).result.body ↔
      m.Presentable := by
  constructor
  · rintro ⟨hstatus, hbody⟩
    rcases result_respond_ok path m with ⟨record, hdump, hwritable, hresult⟩ | ⟨-, hresult⟩
    · rw [hresult, hdump, Except.ok.injEq] at hbody
      -- what leaves is the record, so no name inside is reserved
      obtain ⟨⟨hlevels, hform⟩, rfl⟩ := Message.dump_eq_ok_iff.mp hdump
      have hself : Outward.ofJson m.record = m.record := hbody.symm
      obtain ⟨hmetrics, hints⟩ := m.isWritable_record_iff.mp (hself ▸ hwritable)
      exact ⟨hlevels, hform, hmetrics, hints, m.ofJson_record_eq_self_iff.mp hself⟩
    · rw [hresult] at hstatus
      cases hstatus
  · intro h
    have hdump : m.dump = .ok m.record := Message.dump_eq_ok_iff.mpr ⟨⟨h.levels, h.hasForm⟩, rfl⟩
    have hself := m.ofJson_record_eq_self_iff.mpr h.names
    have hwritable := m.isWritable_record_iff.mpr ⟨h.metrics, h.ints⟩
    rcases result_respond_ok path m with ⟨record, hrecord, -, hresult⟩ | ⟨hnone, -⟩
    · obtain rfl : m.record = record := Except.ok.inj (hdump.symm.trans hrecord)
      rw [hresult, hself]
      exact ⟨rfl, hdump⟩
    · have := hnone m.record hdump
      rw [hself, hwritable] at this
      cases this

/-! ### Exchanges -/

/-- A request to translate that is as it should be, what it says, and the service and the moment that it meets. -/
structure Exchange where
  service : Service
  moment : Moment
  request : Request
  path : List Char
  category : String
  submission : Submission
  method : Text.upper request.method = "POST"
  route : Route.ofTarget? request.target = some (path, .translate category)
  content : Submission.read request.content = .ok submission

namespace Exchange

variable (x : Exchange)

/-- The raw message that is submitted. -/
def raw : RawMessage := x.submission.raw x.moment.now

/-- How the service ends the call. -/
def result : Except Failure Message := (x.service.process x.moment x.category x.raw).result

/-- What the client gets. -/
def response : Response := (answer x.service x.moment x.request).result

/-- The code of what goes wrong. Whatever stands in the way of a message that was translated has none. -/
def code? : Option String :=
  match x.result with
  | .ok _ => none
  | .error f => f.code?

theorem response_eq : x.response = (respond x.path x.result).result := by
  have hmethod : Route.methods (.translate x.category) = ["POST"] := rfl
  unfold response answer serve
  simp [x.method, x.route, hmethod, submit, x.content, result, raw]

/-- A response with status 500 tells no more than the code. -/
theorem response_eq_inside (h : x.response.status = 500) : x.response = .inside x.code? := by
  rw [response_eq] at h ⊢
  unfold code?
  cases hresult : x.result with
  | ok m =>
    rw [hresult] at h
    rcases result_respond_ok x.path m with ⟨record, -, -, hrecord⟩ | ⟨-, hinside⟩
    · rw [hrecord] at h
      cases h
    · exact hinside
  | error f =>
    rw [hresult] at h
    refine Response.ofFailure_eq_inside ?_
    rintro category rfl
    cases h

/-- The client learns how the translation ended: a message comes with status 200 and exactly its record, an unknown
category with status 404 and its code, and whatever else goes wrong with status 500. -/
def Answered : Prop :=
  match x.result with
  | .ok m => x.response.status = 200 ∧ m.dump = .ok x.response.body
  | .error (.notFound _) =>
    x.response.status = 404 ∧ x.response.errorCode? = some (.str "TRANSLATOR_NOT_FOUND")
  | .error _ => x.response.status = 500

/-- The client learns how the translation ended, unless a message was translated that is not presentable. Of what goes
wrong inside it learns no more than the code: without a code the response has none, and two responses with status 500
have the same body if the codes are the same, whatever was asked, wherever it was asked and whatever went wrong. -/
theorem answered_iff :
    (x.Answered ↔ ∀ m, x.result = .ok m → m.Presentable) ∧
      (x.response.status = 500 →
        (x.code? = none → x.response.errorCode? = some .null) ∧
          ∀ y : Exchange, y.response.status = 500 → x.code? = y.code? → x.response.body = y.response.body) := by
  constructor
  · unfold Answered
    rw [response_eq]
    cases hresult : x.result with
    | ok m => simpa using respond_ok_iff x.path m
    | error f => cases f <;> simp [respond, refuse, Response.ofFailure, Response.statusOf, Response.errorCode?,
        Response.failureBody, Json.last?, Failure.code?, Json.ofText?]
  · intro hx
    rw [x.response_eq_inside hx]
    refine ⟨fun hcode => ?_, fun y hy hcode => ?_⟩
    · rw [hcode]
      exact Response.errorCode?_inside none
    · rw [y.response_eq_inside hy, hcode]

/-! ### A metric that stays behind -/

/-- A reply with one metric, the name of which is reserved. -/
def reservedContent : Bytes := Charset.Utf8.ofText <|
  "\x7b\"connector_name\":\"kura-mqtt\",\"topic\":\"$EDC/acme/gw-1/KEYS-V1/REPLY/req-1\"," ++
    "\"metrics\":\x7b\"_sa_x\":1\x7d\x7d"

/-- The translated message has the metric. -/
theorem translate_reservedContent {submission : Submission} (h : Submission.read reservedContent = .ok submission) :
    ∃ m, (TranslatorTable.full .packaged).translate "keystore.item" (submission.raw (.utc 0)) = .ok m ∧
      ∃ name ∈ namesOf m.metrics.entries, Outward.leaves name = false := by
  have hany : ((Submission.read reservedContent).toOption.bind fun submission =>
      ((TranslatorTable.full .packaged).translate "keystore.item" (submission.raw (.utc 0))).toOption.map fun m =>
        (namesOf m.metrics.entries).any fun name => !Outward.leaves name) = some true := by decide +kernel
  rw [h] at hany
  obtain ⟨m, hm, hname⟩ := Option.map_eq_some_iff.mp hany
  refine ⟨m, ?_, by simpa using hname⟩
  cases htranslate : (TranslatorTable.full .packaged).translate "keystore.item" (submission.raw (.utc 0)) with
  | error f =>
    rw [htranslate] at hm
    cases hm
  | ok m' =>
    rw [htranslate] at hm
    exact congrArg _ (Option.some.inj hm)

theorem not_forall_answered : ¬∀ x : Exchange, x.Answered := by
  intro h
  obtain ⟨submission, hread⟩ := exists_eq_ok_of_isSome (x := Submission.read reservedContent) (by decide +kernel)
  obtain ⟨m, hm, name, hname, hleaves⟩ := translate_reservedContent hread
  let x : Exchange :=
    { service := .ofTable (.full .packaged) none
      moment := ⟨.utc 0, "id-1", .taken none⟩
      request := ⟨"POST", "/translate/keystore.item", reservedContent⟩
      path := "/translate/keystore.item".toList
      category := "keystore.item"
      submission := submission
      method := by decide +kernel
      route := by decide +kernel
      content := hread }
  have hresult : x.result = .ok m := by
    show ((Service.ofTable (.full .packaged) none).process _ _ (submission.raw (.utc 0))).result = _
    rw [Service.process_of_ok _ hm]
    rfl
  have hpresentable : m.Presentable := by
    have hx := h x
    rw [Answered, hresult, response_eq, hresult] at hx
    exact (respond_ok_iff x.path m).mp hx
  have hall := (Value.every_dict.mp hpresentable.names).1 name hname
  rw [Outward.Leaves, hleaves] at hall
  cases hall

end Exchange

end Http

end DeviceRelay
