import DeviceRelay.Charset.Utf8
import DeviceRelay.Dictionary
import DeviceRelay.Timestamp.Text
import DeviceRelay.Value

/-!
# Values inside records

A record may keep dictionaries of any values. In its JSON form octets are the text that they spell in UTF-8,
and values lie inside one another only so deep. What spells no text, lies too deep or has no form makes the
whole fail; of several such places the first one tells why.
-/

namespace DeviceRelay

/-- Why a value has no form inside a record. -/
inductive RecordFault where
  /-- A value lies inside too many others. -/
  | tooDeep
  /-- Octets that are no text. -/
  | notText (fault : Charset.DecodeFault)
  /-- A thing with no form. -/
  | noForm
  deriving Repr, DecidableEq

namespace RecordFault

/-- The kind of a fault. -/
def kindName : RecordFault → String
  | .tooDeep => "ValueError"
  | .notText _ => "UnicodeDecodeError"
  | .noForm => "PydanticSerializationError"

/-- The text of a fault. -/
def message : RecordFault → String
  | .tooDeep => "Maximum serialization depth exceeded"
  | .notText fault => fault.message
  | .noForm => "Unable to serialize unknown type: <class 'object'>"

end RecordFault

namespace Value

/-- How many levels a value of a record's dictionary may have: a value with nothing inside has one. -/
def recordLevels : Nat := 255

/-- The text that octets spell. -/
def spelled? (b : Bytes) : Except RecordFault Json :=
  match Charset.Utf8.decode b with
  | .ok cs => .ok (.str (String.ofList cs))
  | .error f => .error (.notText { f with reason := .notUtf8 })

/-- A floating-point number, or null for one that is not finite. -/
def finiteJson (x : Binary64) : Json := if x.isFinite then .float x else .null

mutual

/-- The JSON form inside a record, if the value has no more levels than `room`. -/
def recorded? : Nat → Value → Except RecordFault Json
  | 0, _ => .error .tooDeep
  | _, .null => .ok .null
  | _, .bool b => .ok (.bool b)
  | _, .int n => .ok (.int n)
  | _, .float x => .ok (finiteJson x)
  | _, .text s => .ok (.str s)
  | _, .bytes b => spelled? b
  | _, .buffer b => spelled? b
  | room + 1, .list items => (recordedItems? room items).map .arr
  | room + 1, .tuple items => (recordedItems? room items).map .arr
  | room + 1, .dict entries => (recordedEntries? room entries).map .obj
  | _, .instant t => .ok (.str t.text)
  | _, .object => .error .noForm

/-- The JSON forms of items, first to last. -/
def recordedItems? : Nat → List Value → Except RecordFault (List Json)
  | _, [] => .ok []
  | room, v :: rest => do
    let item ← recorded? room v
    let items ← recordedItems? room rest
    .ok (item :: items)

/-- The JSON forms of entries, first to last. -/
def recordedEntries? : Nat → List (String × Value) → Except RecordFault (List (String × Json))
  | _, [] => .ok []
  | room, (name, v) :: rest => do
    let member ← recorded? room v
    let members ← recordedEntries? room rest
    .ok ((name, member) :: members)

end

/-- The JSON form of a dictionary that a record keeps. -/
def recordedDictionary? (d : Dictionary Value) : Except RecordFault Json :=
  (recordedEntries? recordLevels d.entries).map .obj

end Value

end DeviceRelay
