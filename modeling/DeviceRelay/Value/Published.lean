import DeviceRelay.Text.Numeral
import DeviceRelay.Timestamp.Text
import DeviceRelay.Value

/-!
# Values as JSON

`published?` gives the JSON form of a value that is sent as it is: octets become hexadecimal text and
timestamps their written form. A value of a kind that has no JSON form, or an integer with too many digits,
anywhere inside, makes the whole fail.
-/

namespace DeviceRelay

/-- Why a value cannot be published. -/
inductive PublishFault where
  /-- A value of a kind that has no JSON form. -/
  | noForm (kind : String)
  /-- An integer with too many digits. -/
  | unwritable
  deriving Repr, DecidableEq

namespace PublishFault

/-- The kind of a fault. -/
def kindName : PublishFault → String
  | .noForm _ => "TypeError"
  | .unwritable => "ValueError"

/-- The text of a fault. -/
def message : PublishFault → String
  | .noForm kind => s!"Object of type {kind} is not JSON serializable"
  | .unwritable => Text.unwritableMessage

end PublishFault

namespace Value

mutual

/-- The JSON form of a published value. -/
def published? : Value → Except PublishFault Json
  | .null => .ok .null
  | .bool b => .ok (.bool b)
  | .int n => if Text.isWritable n then .ok (.int n) else .error .unwritable
  | .float x => .ok (.float x)
  | .text s => .ok (.str s)
  | .bytes b => .ok (.str (Hex.encode b))
  | .buffer b => .error (.noForm (kindName (.buffer b)))
  | .list items => (publishedItems? items).map .arr
  | .tuple items => (publishedItems? items).map .arr
  | .dict entries => (publishedEntries? entries).map .obj
  | .instant t => .ok (.str t.isoText)
  | .object => .error (.noForm (kindName .object))

/-- The JSON forms of published items, first to last. -/
def publishedItems? : List Value → Except PublishFault (List Json)
  | [] => .ok []
  | v :: rest => do
    let item ← published? v
    let items ← publishedItems? rest
    .ok (item :: items)

/-- The JSON forms of published entries, first to last. -/
def publishedEntries? : List (String × Value) → Except PublishFault (List (String × Json))
  | [] => .ok []
  | (name, v) :: rest => do
    let member ← published? v
    let members ← publishedEntries? rest
    .ok ((name, member) :: members)

end

end Value

end DeviceRelay
