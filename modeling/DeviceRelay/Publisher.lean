import DeviceRelay.ErrorReport
import DeviceRelay.Json.Writer
import DeviceRelay.Message
import DeviceRelay.Outcome
import DeviceRelay.Value.Published

/-!
# Publishing

A publisher hands messages and error reports to the broker as JSON text: a message under the topic of
translated messages with the device as its key, a report under the topic of errors with its identifier
as its key. Without a topic of errors no report goes out. Each failure to hand something over is logged
where it happens, and one that the broker itself refuses is logged once more by the publisher.

    Message, ErrorReport ──dump──▶ Json ──document──▶ Publication ──send──▶ broker
-/

namespace DeviceRelay

/-- The topics that a publisher uses. -/
structure Publisher where
  translatedTopic : String
  /-- Empty if no reports are to go out. -/
  errorTopic : String
  deriving Repr, DecidableEq

namespace Publisher

/-- The part that hands publications over. -/
def handoverSource : String := "kura_translator.mq.kafka_helpers"

/-- The part that chooses topics. -/
def publisherSource : String := "kura_translator.mq.kafka_producer"

/-- The topics that are used if no others are set. -/
def standard : Publisher := ⟨"device_responses", "iot_errors"⟩

/-- A publisher of given topics. An empty topic of translated messages counts as none given; an empty
topic of errors is one. -/
def ofTopics (defaults : Publisher) (translated error : Option String) : Publisher :=
  ⟨(translated.filter fun t => t ≠ "").getD defaults.translatedTopic,
    error.getD defaults.errorTopic⟩

/-! ### Handing over -/

/-- The octets of a key; an empty key counts as none. -/
def keyOctets (key : Option String) : Option Bytes :=
  (key.filter fun k => k ≠ "").map Charset.Utf8.ofText

/-- A document under a topic. -/
def document (topic : String) (content : Json) (key : Option String) : Publication :=
  ⟨topic, Charset.Utf8.ofText (content.write Json.published), keyOctets key⟩

/-- What is logged when a publication cannot be handed over. -/
def handoverEntry (topic reason : String) : LogEntry :=
  .error handoverSource s!"Failed to send message to Kafka topic '{topic}': {reason}"

/-- What is logged when a publication is lost afterwards. -/
def lossEntry (topic reason : String) : LogEntry :=
  .error handoverSource s!"Message delivery failed for topic {topic}: {reason}"

/-- A failure to hand something over under a topic. -/
def handoverFailure (topic : String) (failure : Failure) : Outcome (Except Failure Unit) :=
  .logged [handoverEntry topic failure.message] (.error failure)

/-- Hand a publication to the broker. -/
def send (reception : Reception) (publication : Publication) : Outcome (Except Failure Unit) :=
  match reception with
  | .taken lost =>
    ⟨.ok (), [publication], (lost.map (lossEntry publication.topic)).toList, 0⟩
  | .untaken breakdown => handoverFailure publication.topic (.ofBreakdown breakdown)
  | .unsettled breakdown =>
    { handoverFailure publication.topic (.ofBreakdown breakdown) with publications := [publication] }

/-- The failure of a value that cannot be published. -/
def failureOf (fault : PublishFault) : Failure := .unexpected fault.kindName fault.message

/-- Hand a document over, if it can be written. -/
def offer (reception : Reception) (topic : String) (content : Json) (key : Option String) :
    Outcome (Except Failure Unit) :=
  if content.isWritable then send reception (document topic content key)
  else handoverFailure topic (failureOf .unwritable)

/-- Publish a value of any kind under a topic. -/
def publish (reception : Reception) (topic : String) (value : Value) (key : Option String) :
    Outcome (Except Failure Unit) :=
  match value.published? with
  | .error fault => handoverFailure topic (failureOf fault)
  | .ok content => send reception (document topic content key)

/-! ### Messages and reports -/

/-- What is offered as a message and is none. -/
def notMessage : Failure := .unexpected "TypeError" "Message must be an instance of DeviceMessage"

/-- What is offered as a report and is none. -/
def notReport : Failure := .unexpected "TypeError" "Message must be an instance of ErrorMessage"

/-- What the publisher logs of a failure: something only if the broker refuses. -/
def refusalEntries (text : String) : Except Failure Unit → List LogEntry
  | .error (.broker reason) => [.error publisherSource s!"{text}: {reason}"]
  | _ => []

/-- Hand a document over, with the publisher's words for a refusal. -/
def offerAs (text : String) (reception : Reception) (topic : String) (content : Json)
    (key : Option String) : Outcome (Except Failure Unit) :=
  (offer reception topic content key).andThen fun result =>
    .logged (refusalEntries text result) result

/-- Publish a message, with the device as its key. -/
def publishMessage (p : Publisher) (reception : Reception) (m : Message) :
    Outcome (Except Failure Unit) :=
  match m.dump with
  | .error fault => .pure (.error (.ofRecord fault))
  | .ok content =>
    offerAs ("Failed to publish " ++ m.head.category ++ s!" message to Kafka topic '" ++
        p.translatedTopic ++ "'")
      reception p.translatedTopic content (some m.head.clientId)

/-- Publish a report, with its identifier as its key, if there is a topic of errors. -/
def publishReport (p : Publisher) (reception : Reception) (r : ErrorReport) :
    Outcome (Except Failure Unit) :=
  if p.errorTopic = "" then
    .logged [.warning publisherSource <|
      "[" ++ r.requestId ++ "] KAFKA_ERROR_TOPIC not configured. Skipping error publication."] (.ok ())
  else match r.dump with
    | .error fault => .pure (.error (.ofRecord fault))
    | .ok content =>
      offerAs ("[" ++ r.requestId ++ "] Failed to publish ErrorMessage to Kafka topic '" ++
          p.errorTopic ++ "'")
        reception p.errorTopic content (some r.requestId)

/-- What is logged when the publisher closes with some publications not yet on their way. -/
def close (remaining : Int) : List LogEntry :=
  if remaining = 0 then []
  else [.warning publisherSource s!"{remaining} message(s) still undelivered after flush"]

end Publisher

end DeviceRelay
