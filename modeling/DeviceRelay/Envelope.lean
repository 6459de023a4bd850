import DeviceRelay.RawMessage
import DeviceRelay.Registry
import DeviceRelay.ReplyChannel
import DeviceRelay.ResponseCode

/-!
# Envelopes of replies

What every reply has, whatever its category: the connector's descriptor, the channel, the response
code, what the device says about a failure, and the other metrics. The first broken rule decides, in
the order

    descriptor, body encoding, topic, response code, what the device says about a failure.

The body takes no part in it.
-/

namespace DeviceRelay

/-- A reply whose frame has been read. -/
structure Envelope where
  descriptor : Descriptor
  channel : ReplyChannel
  code : ResponseCode
  exceptionMessage : Option String
  exceptionStack : Option String
  /-- The metrics that the envelope does not account for. -/
  metrics : Dictionary Value
  raw : RawMessage

namespace Envelope

/-- The metric that says what failed. -/
def messageMetric : String := "response.exception.message"

/-- The metric that says where it failed. -/
def stackMetric : String := "response.exception.stack"

/-- The metrics that an envelope accounts for. -/
def ownMetrics : List String := [ResponseCode.metric, messageMetric, stackMetric]

/-- The encodings of bodies that can be read. -/
def bodyEncodings : List String := ["json"]

/-- The descriptor of a message's connector. -/
def resolve (raw : RawMessage) (registry : Registry) : Except EnvelopeFault Descriptor :=
  match registry.lookup raw.connectorName with
  | none => .error (.unknownConnector raw.connectorName)
  | some d =>
    if bodyEncodings.contains d.bodyEncoding then .ok d
    else .error (.unsupportedEncoding d.name.repaired d.bodyEncoding)

/-- A metric in words; null counts as none. -/
def wordsOf (metrics : Dictionary Value) (name : String) : Except Fault (Option String) :=
  match metrics.get? name with
  | none | some .null => .ok none
  | some v => if v.isWritable then .ok (some v.plain) else .error .unwritable

/-- Read the frame of a reply. -/
def read (raw : RawMessage) (registry : Registry) : Except Fault Envelope := do
  let descriptor ← (resolve raw registry).mapError .envelope
  let channel ← (ReplyChannel.read raw.topic descriptor).mapError .envelope
  let code ← ResponseCode.read raw.metrics
  let exceptionMessage ← wordsOf raw.metrics messageMetric
  let exceptionStack ← wordsOf raw.metrics stackMetric
  .ok {
    descriptor, channel, code, raw, exceptionMessage, exceptionStack
    metrics := raw.metrics.filterNames fun name => !ownMetrics.contains name }

/-- The charset of the body. -/
def charset (e : Envelope) : LooseText := e.descriptor.charset

end Envelope

end DeviceRelay
