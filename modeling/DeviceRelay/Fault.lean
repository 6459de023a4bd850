import DeviceRelay.Charset.Fault
import DeviceRelay.Envelope.Fault
import DeviceRelay.Problem
import DeviceRelay.Text.Numeral
import DeviceRelay.Timestamp.EpochMillis

/-!
# Causes of a rejection

A message is rejected for one cause: the first thing that goes wrong while it is translated. A cause
has a kind, which error records name, and a text. The causes that this library foresees (an envelope
that breaks a rule, a body that cannot be decoded, a document that breaks a rule of its category)
have a code besides; the others come from readers of numbers, names and dates.
-/

namespace DeviceRelay

/-- Why a body cannot be decoded. -/
inductive DecodingReason where
  | noBody
  | unknownCharset (name : String)
  /-- Octets that are no text in the charset of that name. -/
  | undecodable (name : String) (fault : Charset.DecodeFault)
  /-- A text that is no document of that shape. -/
  | mismatch (shape : String) (problems : List Problem)
  deriving Repr, DecidableEq

/-- The text of a decoding reason. -/
def DecodingReason.message : DecodingReason → String
  | .noBody => "No body to decode"
  | .unknownCharset name => s!"Unknown charset '{name}'"
  | .undecodable name fault => s!"Body is not valid {name}: " ++ fault.message
  | .mismatch shape problems =>
    s!"Body does not match {shape}: " ++ Problem.textOfAll problems

/-- The cause of a rejection. -/
inductive Fault where
  | envelope (fault : EnvelopeFault)
  /-- A response code in text that passes for a number and is none. -/
  | numeral (fault : Text.NumeralFault)
  | decoding (reason : DecodingReason) (body : Option Bytes)
  /-- A value that has to be named holds an integer with too many digits. -/
  | unwritable
  /-- The name of a charset cannot be looked for. -/
  | charsetName (fault : Charset.NameFault)
  /-- A rule of the category is broken at a field. -/
  | validation (field reason : String)
  | epoch (fault : EpochFault)
  /-- Anything else. -/
  | unexpected (kind message : String)
  deriving Repr

namespace Fault

/-- A cause whose text names a value: if the value cannot be written out, that is the cause instead. -/
def naming (v : Value) (fault : Fault) : Fault := if v.isWritable then fault else .unwritable

/-- The kind of a date fault. -/
def epochKind : EpochFault → String
  | .quotientTooLarge | .secondsOutOfRange => "OverflowError"
  | .yearUnrepresentable => "OSError"
  | .yearOutOfRange _ => "ValueError"

/-- The kind of a cause, as error records name it. -/
def kindName : Fault → String
  | .envelope _ => "InvalidEnvelopeError"
  | .numeral _ | .unwritable => "ValueError"
  | .charsetName fault => fault.kindName
  | .decoding _ _ => "DecodingError"
  | .validation _ _ => "PayloadValidationError"
  | .epoch fault => epochKind fault
  | .unexpected kind _ => kind

/-- The text of a cause. -/
def message : Fault → String
  | .envelope fault => fault.message
  | .numeral fault => fault.message
  | .decoding reason _ => reason.message
  | .unwritable => Text.unwritableMessage
  | .charsetName fault => fault.message
  | .validation field reason => s!"Invalid value for '{field}': {reason}"
  | .epoch fault => fault.message
  | .unexpected _ message => message

/-- The code of a cause that is foreseen. -/
def code? : Fault → Option String
  | .envelope _ => some "INVALID_ENVELOPE"
  | .decoding _ _ => some "DECODING_ERROR"
  | .validation _ _ => some "PAYLOAD_VALIDATION_ERROR"
  | _ => none

end Fault

end DeviceRelay
