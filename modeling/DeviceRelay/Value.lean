import DeviceRelay.Bytes
import DeviceRelay.Dictionary
import DeviceRelay.Json
import DeviceRelay.Timestamp

/-!
# Values of metrics

A connector hands over metrics and metadata as values of any kind: what JSON has, and beside it
octets, in a fixed or a growing row, tuples, timestamps and things that only the connector knows.
`Value.hexed` replaces all octets by their hexadecimal text, at any depth, so that the rest of the
world can read the value.
-/

namespace DeviceRelay

/-- A value of any kind. -/
inductive Value where
  | null
  | bool (value : Bool)
  | int (value : Int)
  | float (value : Binary64)
  | text (value : String)
  | bytes (value : Bytes)
  /-- Octets in a row that may grow. -/
  | buffer (value : Bytes)
  | list (items : List Value)
  | tuple (items : List Value)
  | dict (entries : List (String × Value))
  | instant (value : Timestamp)
  /-- A thing with no form outside the connector. -/
  | object
  deriving Repr, Inhabited

namespace Value

/-- The name of a value's kind. -/
def kindName : Value → String
  | .null => "NoneType"
  | .bool _ => "bool"
  | .int _ => "int"
  | .float _ => "float"
  | .text _ => "str"
  | .bytes _ => "bytes"
  | .buffer _ => "bytearray"
  | .list _ => "list"
  | .tuple _ => "tuple"
  | .dict _ => "dict"
  | .instant _ => "datetime"
  | .object => "object"

mutual

/-- The value with hexadecimal text for octets and lists for tuples. -/
def hexed : Value → Value
  | .bytes b => .text (Hex.encode b)
  | .buffer b => .text (Hex.encode b)
  | .list items => .list (hexedItems items)
  | .tuple items => .list (hexedItems items)
  | .dict entries => .dict (hexedEntries entries)
  | v => v

/-- Each item with hexadecimal text for octets. -/
def hexedItems : List Value → List Value
  | [] => []
  | v :: rest => hexed v :: hexedItems rest

/-- Each entry with hexadecimal text for octets. -/
def hexedEntries : List (String × Value) → List (String × Value)
  | [] => []
  | (name, v) :: rest => (name, hexed v) :: hexedEntries rest

end

mutual

/-- The value that a JSON value is: of several members of one name the last counts. -/
def ofJson : Json → Value
  | .null => .null
  | .bool b => .bool b
  | .int n => .int n
  | .float x => .float x
  | .str s => .text s
  | .arr items => .list (ofItems items)
  | .obj members => .dict (lastEntries (ofMembers members))

/-- The values of items. -/
def ofItems : List Json → List Value
  | [] => []
  | item :: rest => ofJson item :: ofItems rest

/-- The values of members. -/
def ofMembers : List (String × Json) → List (String × Value)
  | [] => []
  | (name, v) :: rest => (name, ofJson v) :: ofMembers rest

end

end Value

end DeviceRelay
