import DeviceRelay.Publisher
import DeviceRelay.Translator

/-!
# The relay service

The service translates a raw message and publishes what comes of it. A message goes out under the topic
of translated messages; a rejection is logged, reported under the topic of errors, and passed on to the
caller as it is. A report that cannot be published is logged and changes nothing else. Nothing is tried
again.
-/

namespace DeviceRelay

/-- What a call finds when it comes: the time, the identifier that a report made now gets, and what the
broker makes of a publication handed over now. -/
structure Moment where
  now : Timestamp
  identifier : String
  reception : Reception

/-- Translators and, unless nothing is to be published, a publisher. -/
structure Service where
  translate : String → RawMessage → Except Failure Message
  categories : List String
  publisher : Option Publisher

namespace Service

/-- The service of a table of translators. -/
def ofTable (table : TranslatorTable) (publisher : Option Publisher) : Service :=
  ⟨table.translate, table.categories, publisher⟩

/-- The part that translates and publishes. -/
def logSource : String := "kura_translator.service"

/-- What is logged of a rejection. -/
def rejectionEntry (category : String) (raw : RawMessage) (failure : Failure) : LogEntry :=
  .failure logSource <|
    s!"[{category}] Failed to translate message from connector '" ++ raw.connectorName ++
      "' on '" ++ raw.topic ++ "': " ++ failure.message

/-- What is logged of a report that could not be published. -/
def unreportedEntries (category : String) : Except Failure Unit → List LogEntry
  | .ok () => []
  | .error failure =>
    [.error logSource (s!"[{category}] Could not publish translation error: " ++ failure.message)]

/-- Report a rejection, if there is a publisher; whatever happens is only logged. -/
def report (s : Service) (moment : Moment) (category : String) (cause : Fault) (raw : RawMessage) :
    Outcome Unit :=
  match s.publisher with
  | none => .pure ()
  | some p =>
    let report := ErrorReport.ofRejection moment.now moment.identifier category cause raw
    let published : Outcome (Except Failure Unit) :=
      match report with
      | .error fault => .pure (.error (.ofRecord fault))
      | .ok r => (p.publishReport moment.reception r).usingIdentifier
    published.andThen fun result => .logged (unreportedEntries category result) ()

/-- Publish a message, if there is a publisher. -/
def publish (s : Service) (moment : Moment) (m : Message) : Outcome (Except Failure Unit) :=
  match s.publisher with
  | none => .pure (.ok ())
  | some p => p.publishMessage moment.reception m

/-- Translate a raw message of a category and publish what comes of it. -/
def process (s : Service) (moment : Moment) (category : String) (raw : RawMessage) :
    Outcome (Except Failure Message) :=
  match s.translate category raw with
  | .ok m => (s.publish moment m).map fun result => result.map fun () => m
  | .error (.rejected cause kept) =>
    (Outcome.logged [rejectionEntry category raw (.rejected cause kept)] ()).andThen fun () =>
      (s.report moment category cause kept).map fun () => .error (.rejected cause kept)
  | .error failure => .pure (.error failure)

/-- A raw message that is to be translated, and what the broker will make of what comes of it. -/
structure Call where
  category : String
  raw : RawMessage
  reception : Reception

/-- Calls one after another at one time; `identifier` gives the identifiers of reports in order. -/
def run (s : Service) (now : Timestamp) (identifier : Nat → String) (calls : List Call) :
    List (Outcome (Except Failure Message)) :=
  Outcome.inTurn (fun used call =>
    s.process ⟨now, identifier used, call.reception⟩ call.category call.raw) 0 calls

end Service

end DeviceRelay
