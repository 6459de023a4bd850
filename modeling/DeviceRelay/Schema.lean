import DeviceRelay.Json

/-!
# Schemas of device documents

A device sends documents of a few shapes: texts, integers and truth values, arrays of one shape, and
objects with members of known names. A member has a wire name, which devices use, and a name of its
own, which is accepted in its place. Required members must be there; an optional member may also be
null or missing, and a document remembers which.

    Schema ──Item──▶ the type of its documents
-/

namespace DeviceRelay

mutual

/-- A shape of documents. -/
inductive Schema where
  | text
  | integer
  | boolean
  | array (item : Schema)
  | object (members : Members)

/-- The members of an object, in order. -/
inductive Members where
  | done
  | required (wire own : String) (schema : Schema) (rest : Members)
  | optional (wire own : String) (schema : Schema) (rest : Members)

end

/-- What a document has for an optional member. -/
inductive Slot (α : Type) where
  | absent
  | null
  | given (value : α)
  deriving Repr, DecidableEq

/-- The value, if there is one. -/
def Slot.value? {α : Type} : Slot α → Option α
  | .absent => none
  | .null => none
  | .given a => some a

mutual

/-- The documents of a shape. -/
def Schema.Item : Schema → Type
  | .text => String
  | .integer => Int
  | .boolean => Bool
  | .array item => List item.Item
  | .object members => members.Row

/-- The documents of a row of members. -/
def Members.Row : Members → Type
  | .done => Unit
  | .required _ _ schema rest => schema.Item × rest.Row
  | .optional _ _ schema rest => Slot schema.Item × rest.Row

end

end DeviceRelay
