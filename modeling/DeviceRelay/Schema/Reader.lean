import DeviceRelay.Problem
import DeviceRelay.Schema

/-!
# Reading documents strictly

A JSON value is read as a document of a shape without any change of kind: an integer is never made
from a text, a truth value or a number with a point. Unknown members are passed over. Every place that
does not fit is reported, in the order of the members and then of the items.
-/

namespace DeviceRelay

/-- The member that a field is read from: that of the wire name, or else that of the own name. -/
def Members.find? (wire own : String) (members : List (String × Json)) : Option (String × Json) :=
  match Json.last? wire members with
  | some v => some (wire, v)
  | none => (Json.last? own members).map (own, ·)

mutual

/-- Read a document. -/
def Schema.read : (schema : Schema) → Json → Checked schema.Item
  | .text, .str s => .ok s
  | .text, _ => Checked.refuse .notText
  | .integer, .int n => .ok n
  | .integer, _ => Checked.refuse .notInteger
  | .boolean, .bool b => .ok b
  | .boolean, _ => Checked.refuse .notBoolean
  | .array item, .arr values => Checked.items item.read 0 values
  | .array _, _ => Checked.refuse .notArray
  | .object members, .obj values => members.read values
  | .object _, _ => Checked.refuse .notObject

/-- Read the members of an object. -/
def Members.read : (members : Members) → List (String × Json) → Checked members.Row
  | .done, _ => .ok ()
  | .required wire own schema rest, values =>
    let field : Checked schema.Item := match Members.find? wire own values with
      | none => .error [.ofField wire .missing]
      | some (name, v) => Checked.under (.field name) (schema.read v)
    Checked.both field (rest.read values)
  | .optional wire own schema rest, values =>
    let field : Checked (Slot schema.Item) := match Members.find? wire own values with
      | none => .ok .absent
      | some (_, .null) => .ok .null
      | some (name, v) => (Checked.under (.field name) (schema.read v)).map .given
    Checked.both field (rest.read values)

end

end DeviceRelay
