import DeviceRelay.Record
import DeviceRelay.Value.Recorded

/-!
# Raw messages

What a connector receives from a device: a topic, an opaque body and metrics, with the time of receipt.
`RawMessage.log` is the form in which a rejected message is kept; all octets in it are hexadecimal
text.
-/

namespace DeviceRelay

/-- A message as a connector received it. -/
structure RawMessage where
  connectorName : String
  topic : String
  body : Option Bytes
  metrics : Dictionary Value
  receivedOn : Timestamp
  sentOn : Option Timestamp
  metadata : Dictionary Value

namespace RawMessage

/-- Read a raw message; one that does not say when it was received was received now. -/
def read (now : Timestamp) (record : Dictionary Value) : Checked RawMessage :=
  (Checked.both (Record.required record "connector_name" Record.text) <|
   Checked.both (Record.required record "topic" Record.text) <|
   Checked.both (Record.withDefault record "body" none (Record.nullable Record.octets)) <|
   Checked.both (Record.withDefault record "metrics" .empty Record.dictionary) <|
   Checked.both (Record.withDefault record "received_on" now Record.instant) <|
   Checked.both (Record.withDefault record "sent_on" none (Record.nullable Record.instant)) <|
   Record.withDefault record "metadata" .empty Record.dictionary).map
    fun (connectorName, topic, body, metrics, receivedOn, sentOn, metadata) =>
      ⟨connectorName, topic, body, metrics, receivedOn, sentOn, metadata⟩

/-- The body, unless it is empty. -/
def content? (raw : RawMessage) : Option Bytes := raw.body.filter fun b => !b.isEmpty

/-- Whether there is a body with something in it. -/
def hasBody (raw : RawMessage) : Bool := raw.content?.isSome

/-- The body in hexadecimal, unless it is empty. -/
def bodyHex (raw : RawMessage) : Option String := raw.content?.map Hex.encode

/-- Metrics as a record keeps them: without octets. -/
def dumpValues (values : Dictionary Value) : Except RecordFault Json :=
  Value.recordedDictionary? (values.map Value.hexed)

/-- The members of the kept form. -/
def logMembers (raw : RawMessage) : Except RecordFault (List (String × Json)) := do
  let metrics ← dumpValues raw.metrics
  let metadata ← dumpValues raw.metadata
  .ok [("connector_name", .str raw.connectorName), ("topic", .str raw.topic),
    ("metrics", metrics), ("received_on", .str raw.receivedOn.text),
    ("sent_on", .ofText? (raw.sentOn.map Timestamp.text)), ("metadata", metadata),
    ("body_hex", .ofText? raw.bodyHex)]

/-- The form in which a rejected message is kept. -/
def log (raw : RawMessage) : Except RecordFault Json := raw.logMembers.map .obj

end RawMessage

end DeviceRelay
