import DeviceRelay.Charset
import DeviceRelay.Fault
import DeviceRelay.Json.Reader
import DeviceRelay.Json.Writer
import DeviceRelay.Schema.Reader
import DeviceRelay.Schema.Writer

/-!
# Message bodies

The body of a message is a text in the charset of its connector; for most categories the text is a
JSON document of a known shape.

    Bytes ──text──▶ String ──Json.read──▶ Json ──Schema.read──▶ document
    Bytes ◀─encode─────────────────────── Json ◀─Schema.write── document

An empty body is the empty text under every name of a charset that can be looked for, known or not.
-/

namespace DeviceRelay

/-- A shape of documents under the name that faults mention. -/
structure Shape where
  title : String
  schema : Schema

/-- The documents of a shape. -/
abbrev Shape.Item (shape : Shape) : Type := shape.schema.Item

namespace Body

/-- What the JSON of a body may be: arrays and objects two hundred deep, and numbers of as many digits in
front of their point as integers in text have. -/
def limits : Json.Limits := ⟨some 200, some Text.digitLimit, some Text.digitLimit⟩

/-- The text of a body in a charset. -/
def text (body : Option Bytes) (charset : LooseText) : Except Fault String :=
  match body with
  | none => .error (.decoding .noBody none)
  | some bytes =>
    match Charset.checkName charset with
    | .error fault => .error (.charsetName fault)
    | .ok name =>
      if bytes.isEmpty then .ok ""
      else match Charset.ofName? name with
        | none => .error (.decoding (.unknownCharset name) body)
        | some c =>
          match c.decode bytes with
          | .error fault => .error (.decoding (.undecodable name fault) body)
          | .ok cs => .ok (String.ofList cs)

/-- The document of a shape that a text spells. -/
def document (shape : Shape) (text : String) : Checked shape.Item :=
  match Json.read limits text.toList with
  | .error _ => Checked.refuse .malformedDocument
  | .ok v => shape.schema.read v

/-- The document of a shape that a body spells. -/
def read (body : Option Bytes) (shape : Shape) (charset : LooseText) : Except Fault shape.Item := do
  let s ← text body charset
  match document shape s with
  | .error problems => .error (.decoding (.mismatch shape.title problems) body)
  | .ok item => .ok item

/-- Why a document cannot be encoded. -/
inductive EncodingFault where
  | charsetName (fault : Charset.NameFault)
  | unknownCharset (name : String)
  /-- The name is that of a transformation. -/
  | notCharset (name : String)
  | unencodable (fault : Charset.EncodeFault)
  deriving Repr, DecidableEq

/-- The text of an encoding fault. -/
def EncodingFault.message : EncodingFault → String
  | .charsetName fault => fault.message
  | .unknownCharset name => s!"unknown encoding: {name}"
  | .notCharset name =>
    s!"'{name}' is not a text encoding; use codecs.encode() to handle arbitrary codecs"
  | .unencodable fault => fault.message

/-- The octets of a text in a charset. -/
def encodeText (text : List Char) (charset : LooseText) : Except EncodingFault Bytes :=
  match Charset.checkName charset with
  | .error fault => .error (.charsetName fault)
  | .ok name =>
    match Charset.ofName? name with
    | some c => (c.encode text).mapError .unencodable
    | none => .error (if Charset.isTransformation name then .notCharset name else .unknownCharset name)

/-- The body that a device sends for a document. -/
def encode (shape : Shape) (item : shape.Item) (charset : LooseText) : Except EncodingFault Bytes :=
  encodeText (Json.writeChars Json.compact (shape.schema.write item)) charset

end Body

end DeviceRelay
