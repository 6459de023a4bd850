import DeviceRelay.Broker
import DeviceRelay.Fault
import DeviceRelay.RawMessage

/-!
# Failures

How a request to translate, to publish or to look something up may fail. A translator lets out nothing
but rejections, which keep the cause and the raw message.
-/

namespace DeviceRelay

/-- Why a request fails. -/
inductive Failure where
  /-- No translator has the category. -/
  | notFound (category : String)
  /-- A translator rejects the message. -/
  | rejected (cause : Fault) (raw : RawMessage)
  /-- Another failure while translating, with its code. -/
  | refused (kind code message : String)
  /-- The broker refuses to take a publication, or to be connected. -/
  | broker (reason : String)
  /-- Anything else. -/
  | unexpected (kind message : String)

namespace Failure

/-- The failure of a record that has no form. -/
def ofRecord (fault : RecordFault) : Failure := .unexpected fault.kindName fault.message

/-- The failure of talking to the broker. -/
def ofBreakdown : Breakdown → Failure
  | .refused reason => .broker reason
  | .broken kind reason => .unexpected kind reason

/-- The kind of a failure. -/
def kindName : Failure → String
  | .notFound _ => "TranslatorNotFoundError"
  | .rejected _ _ => "InvalidPayloadError"
  | .refused kind _ _ => kind
  | .broker _ => "KafkaException"
  | .unexpected kind _ => kind

/-- The text of a failure. -/
def message : Failure → String
  | .notFound category => s!"No translator registered for category '{category}'"
  | .rejected cause raw => s!"Invalid payload received on '" ++ raw.topic ++ "': " ++ cause.message
  | .refused _ _ message => message
  | .broker reason => reason
  | .unexpected _ message => message

/-- The code of a failure while translating. -/
def code? : Failure → Option String
  | .notFound _ => some "TRANSLATOR_NOT_FOUND"
  | .rejected _ _ => some "INVALID_PAYLOAD"
  | .refused _ code _ => some code
  | .broker _ | .unexpected _ _ => none

end Failure

end DeviceRelay
