import DeviceRelay.Http.Outward
import DeviceRelay.Json.Encoding
import DeviceRelay.Json.Reader
import DeviceRelay.RawMessage
import DeviceRelay.Text.Numeral

/-!
# Submitted messages

Over HTTP a raw message comes as a JSON object: the connector, the topic, the body in hexadecimal text,
the metrics and the time of sending. The content of a request is read in two steps, the JSON text and the
fields; the problems of both are reported at places below `body`.

    content ──value──▶ Json ──fields──▶ Submission ──raw──▶ RawMessage

Texts have characters only. Content in which a surrogate stands by itself, escaped in a JSON text or among its octets,
is left out here and reported as malformed or unreadable; a server that holds such texts takes it, and fails inside
with the answer to it.
-/

namespace DeviceRelay.Http

/-- A raw message as it is submitted. -/
structure Submission where
  connectorName : String
  topic : String
  /-- The octets of the body, if there is a text for them. -/
  body : Option Bytes
  metrics : Dictionary Value
  sentOn : Option Timestamp

/-- Why the content of a request is no submission. -/
inductive ContentFault where
  /-- The content is read no further. -/
  | unreadable
  | invalid (problems : List Problem)
  /-- There are problems, and one of them is about a value that cannot be sent back. -/
  | unreportable
  deriving Repr, DecidableEq

namespace Submission

/-- A body in hexadecimal text; an empty text says that there is none. -/
def bodyOf (v : Value) : Checked (Option Bytes) :=
  match Record.text v with
  | .error problems => .error problems
  | .ok s =>
    match Hex.read s with
    | .ok bytes => .ok (if s = "" then none else some bytes)
    | .error position => Checked.refuse (.notHex position)

/-- Read the fields of a submission. -/
def fields (record : Dictionary Value) : Checked Submission :=
  (Checked.both (Record.required record "connector_name" Record.text) <|
   Checked.both (Record.required record "topic" Record.text) <|
   Checked.both (Record.withDefault record "body_hex" none (Record.nullable bodyOf)) <|
   Checked.both (Record.withDefault record "metrics" .empty Record.dictionary) <|
   Record.withDefault record "sent_on" none (Record.nullable Record.instant)).map
    fun (connectorName, topic, body, metrics, sentOn) =>
      ⟨connectorName, topic, body.join, metrics, sentOn⟩

/-- The place of the whole content. -/
def place : PathStep := .field "body"

/-- A submission from a JSON value. -/
def ofJson : Json → Checked Submission
  | .null => .error [⟨.missing, [place]⟩]
  | .obj members =>
    Checked.under place (fields (Dictionary.ofList (Value.ofMembers members)))
  | _ => .error [⟨.noFields, [place]⟩]

/-- What the JSON of a content may be. -/
def limits : Json.Limits := ⟨some 950, some Text.digitLimit, none⟩

/-- The JSON value of a content; an empty content has the value null. Octets that spell no text make the
content unreadable as a whole, and so does what lies beyond the limits. -/
def value (content : Bytes) : Except ContentFault Json :=
  if content.isEmpty then .ok .null
  else match Json.textOf? content with
    | none => .error .unreadable
    | some text =>
      match Json.read limits text with
      | .ok j => .ok j
      | .error .malformed => .error (.invalid [⟨.malformedRequest, [place]⟩])
      | .error _ => .error .unreadable

/-- The value that a problem is about: of a field that is missing, all that is there. -/
def subject (content : Json) (p : Problem) : Json :=
  match p.kind, p.path, content with
  | .missing, _, _ => content
  | _, [_, .field name], .obj members => (Json.last? name members).getD .null
  | _, _, _ => content

/-- Problems of a content, which are reported together with the values that they are about. -/
def fault (content : Json) (problems : List Problem) : ContentFault :=
  if problems.all fun p => Outward.isFinite (subject content p) then .invalid problems
  else .unreportable

/-- Read the content of a request. -/
def read (content : Bytes) : Except ContentFault Submission :=
  match value content with
  | .error fault => .error fault
  | .ok j => (ofJson j).mapError (fault j)

/-- The raw message of a submission, received now. -/
def raw (s : Submission) (now : Timestamp) : RawMessage :=
  ⟨s.connectorName, s.topic, s.body, s.metrics, now, s.sentOn, .empty⟩

end Submission

end DeviceRelay.Http
