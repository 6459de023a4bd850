import DeviceRelay.Fault
import DeviceRelay.RawMessage

/-!
# Error reports

A report tells other services that something went wrong here: which service reports, the error and its
kind, the category at work and the message that caused it. Each report has an identifier of its own and
the time at which it was made. `ErrorReport.ofRejection` reports a message that a translator rejected,
with the form in which rejected messages are kept.
-/

namespace DeviceRelay

/-- A report of an error. -/
structure ErrorReport where
  requestId : String
  timestamp : Timestamp
  service : String
  error : String
  errorKind : Option String
  category : Option String
  /-- What the error is about. -/
  rejected : Option (Dictionary Value)

namespace ErrorReport

/-- The service that reports if none is named. -/
def serviceName : String := "kura_translator"

/-- The identifiers that reading a record takes: one, if it brings none. -/
def identifiersTaken (record : Dictionary Value) : Nat := if record.has "request_id" then 0 else 1

/-- Read a report. One without an identifier gets the one at hand, and one without a time is made now. -/
def read (now : Timestamp) (identifier : String) (record : Dictionary Value) :
    Checked ErrorReport :=
  (Checked.both (Record.withDefault record "request_id" identifier Record.text) <|
   Checked.both (Record.withDefault record "timestamp" now Record.instant) <|
   Checked.both (Record.withDefault record "service" serviceName Record.text) <|
   Checked.both (Record.required record "error" Record.text) <|
   Checked.both (Record.withDefault record "error_type" none (Record.nullable Record.text)) <|
   Checked.both (Record.withDefault record "category" none (Record.nullable Record.text)) <|
   Record.withDefault record "original_message" none (Record.nullable Record.dictionary)).map
    fun (requestId, timestamp, service, error, errorKind, category, rejected) =>
      ⟨requestId, timestamp, service, error, errorKind, category, rejected⟩

/-- The kept form of a raw message, as a dictionary. -/
def kept (raw : RawMessage) : Except RecordFault (Dictionary Value) :=
  raw.logMembers.map fun members =>
    Dictionary.ofList (members.map fun member => (member.1, Value.ofJson member.2))

/-- The report of a rejected message, if that has a kept form. -/
def ofRejection (now : Timestamp) (identifier category : String) (cause : Fault) (raw : RawMessage) :
    Except RecordFault ErrorReport :=
  (kept raw).map fun rejected =>
    ⟨identifier, now, serviceName, cause.message, some cause.kindName, some category, some rejected⟩

/-- The form of what the error is about. -/
def rejectedJson : Option (Dictionary Value) → Except RecordFault Json
  | none => .ok .null
  | some d => Value.recordedDictionary? d

/-- A report as a record, if what it is about has a form. -/
def dump (r : ErrorReport) : Except RecordFault Json :=
  (rejectedJson r.rejected).map fun rejected =>
    .obj [("request_id", .str r.requestId), ("timestamp", .str r.timestamp.text),
      ("service", .str r.service), ("error", .str r.error), ("error_type", .ofText? r.errorKind),
      ("category", .ofText? r.category), ("original_message", rejected)]

end ErrorReport

end DeviceRelay
