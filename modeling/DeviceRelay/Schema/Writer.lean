import DeviceRelay.Schema

/-!
# Writing documents

`Schema.write` gives the form that a device sends: wire names, and of the optional members those that
the document has, null or not. `Schema.dump` gives every member under its own name.
-/

namespace DeviceRelay

mutual

/-- A document as a device sends it. -/
def Schema.write : (schema : Schema) → schema.Item → Json
  | .text, s => .str s
  | .integer, n => .int n
  | .boolean, b => .bool b
  | .array item, values => .arr (List.map item.write values)
  | .object members, row => .obj (members.write row)

/-- The members of an object as a device sends them. -/
def Members.write : (members : Members) → members.Row → List (String × Json)
  | .done, _ => []
  | .required wire _ schema rest, (v, row) => (wire, schema.write v) :: rest.write row
  | .optional _ _ _ rest, (.absent, row) => rest.write row
  | .optional wire _ _ rest, (.null, row) => (wire, .null) :: rest.write row
  | .optional wire _ schema rest, (.given v, row) => (wire, schema.write v) :: rest.write row

end

mutual

/-- A document with every member. -/
def Schema.dump : (schema : Schema) → schema.Item → Json
  | .text, s => .str s
  | .integer, n => .int n
  | .boolean, b => .bool b
  | .array item, values => .arr (List.map item.dump values)
  | .object members, row => .obj (members.dump row)

/-- Every member of an object under its own name. -/
def Members.dump : (members : Members) → members.Row → List (String × Json)
  | .done, _ => []
  | .required _ own schema rest, (v, row) => (own, schema.dump v) :: rest.dump row
  | .optional _ own schema rest, (slot, row) =>
    (own, (slot.value?.map schema.dump).getD .null) :: rest.dump row

end

end DeviceRelay
