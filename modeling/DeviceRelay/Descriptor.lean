import DeviceRelay.Record
import DeviceRelay.Text.Loose

/-!
# Descriptors of connectors

A descriptor says how the messages of a connector are framed: the separator of its topics, the first
segment of control topics, the verb of replies, and how bodies are encoded. Everything but the name has
a default; the charset's is a setting.

Texts come as a configuration holds them, torn ones among them. A name is only compared with names and a charset is
looked for among charsets, so both are kept as they are, and a torn separator is refused. In the other fields a
replacement character stands for each surrogate.
-/

namespace DeviceRelay

/-- The conventions of a named connector. -/
structure Descriptor where
  name : LooseText
  transport : String
  controlPrefix : String
  topicSeparator : String
  replyVerb : String
  bodyEncoding : String
  charset : LooseText
  separator_ne : topicSeparator ≠ ""
  deriving DecidableEq

namespace Descriptor

theorem slash_ne : "/" ≠ "" := by decide

/-- A descriptor with nothing but a name. -/
def ofName (charset name : LooseText) : Descriptor :=
  ⟨name, "mqtt", "$EDC", "/", "REPLY", "json", charset, slash_ne⟩

section Reading

variable {β : Type} (text : β → Checked LooseText)

/-- A text with a replacement character for each surrogate. -/
def plain (v : β) : Checked String := (text v).map LooseText.repaired

/-- A text that is neither torn nor empty. -/
def separator (v : β) : Checked { s : String // s ≠ "" } :=
  match text v with
  | .error problems => .error problems
  | .ok (.torn _) => Checked.refuse .notUnicode
  | .ok (.text s) => if h : s ≠ "" then .ok ⟨s, h⟩ else Checked.refuse .tooShort

/-- Read a descriptor from a record, of whose values `text` takes the texts; `charset` is the charset of one that
names none. -/
def read (charset : LooseText) (record : Dictionary β) : Checked Descriptor :=
  (Checked.both (Record.required record "name" text) <|
   Checked.both (Record.withDefault record "transport" "mqtt" (plain text)) <|
   Checked.both (Record.withDefault record "control_prefix" "$EDC" (plain text)) <|
   Checked.both (Record.withDefault record "topic_separator" ⟨"/", slash_ne⟩ (separator text)) <|
   Checked.both (Record.withDefault record "reply_verb" "REPLY" (plain text)) <|
   Checked.both (Record.withDefault record "body_encoding" "json" (plain text)) <|
   Record.withDefault record "charset" charset text).map
    fun (name, transport, start, separator, verb, encoding, charset) =>
      ⟨name, transport, start, separator.1, verb, encoding, charset, separator.2⟩

end Reading

end Descriptor

end DeviceRelay
