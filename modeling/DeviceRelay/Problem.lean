import DeviceRelay.Json

/-!
# Problems of a record

A reader of records does not stop at the first field that is wrong. It reports each as a `Problem`: the
path to the place and the kind of mismatch. A kind has a code for programs and a text for people.
-/

namespace DeviceRelay

/-- One step down into a record. -/
inductive PathStep where
  | field (name : String)
  | index (position : Nat)
  deriving Repr, DecidableEq

/-- A step in words. -/
def PathStep.text : PathStep → String
  | .field name => name
  | .index position => toString position

/-- A step as JSON. -/
def PathStep.toJson : PathStep → Json
  | .field name => .str name
  | .index position => .int position

/-- What is wrong with a place. -/
inductive ProblemKind where
  | missing
  | notText
  | notInteger
  | notBoolean
  | notArray
  /-- No object, where the text of a document has to have one. -/
  | notObject
  /-- The text of a document is no JSON. -/
  | malformedDocument
  | notDictionary
  | notBytes
  /-- A value of a kind that is never a timestamp. -/
  | notTimestamp
  /-- A text that spells no timestamp. -/
  | badTimestamp
  /-- A number beyond the calendar. -/
  | farTimestamp
  | tooShort
  /-- Octets for a text that are not UTF-8. -/
  | notUnicode
  /-- A field that cannot be given another value. -/
  | frozen
  /-- A text that stops being hexadecimal at a position. -/
  | notHex (position : Nat)
  /-- A request whose content is JSON, but no object. -/
  | noFields
  /-- A request whose content is no JSON. -/
  | malformedRequest
  deriving Repr, DecidableEq

/-- The code of a kind. -/
def ProblemKind.code : ProblemKind → String
  | .missing => "missing"
  | .notText => "string_type"
  | .notInteger => "int_type"
  | .notBoolean => "bool_type"
  | .notArray => "list_type"
  | .notObject => "model_type"
  | .malformedDocument | .malformedRequest => "json_invalid"
  | .notDictionary => "dict_type"
  | .notBytes => "bytes_type"
  | .notTimestamp => "datetime_type"
  | .badTimestamp => "datetime_from_date_parsing"
  | .farTimestamp => "datetime_parsing"
  | .tooShort => "string_too_short"
  | .notUnicode => "string_unicode"
  | .frozen => "frozen_instance"
  | .notHex _ => "value_error"
  | .noFields => "model_attributes_type"

/-- The words for a kind. -/
def ProblemKind.message : ProblemKind → String
  | .missing => "Field required"
  | .notText => "Input should be a valid string"
  | .notInteger => "Input should be a valid integer"
  | .notBoolean => "Input should be a valid boolean"
  | .notArray => "Input should be a valid array"
  | .notObject => "Input should be an object"
  | .malformedDocument => "Invalid JSON"
  | .notDictionary => "Input should be a valid dictionary"
  | .notBytes => "Input should be a valid bytes"
  | .notTimestamp | .farTimestamp => "Input should be a valid datetime"
  | .badTimestamp => "Input should be a valid datetime or date"
  | .tooShort => "String should have at least 1 character"
  | .notUnicode => "Input should be a valid string, unable to parse raw data as a unicode string"
  | .frozen => "Instance is frozen"
  | .notHex position =>
    s!"Value error, non-hexadecimal number found in fromhex() arg at position {position}"
  | .noFields => "Input should be a valid dictionary or object to extract fields from"
  | .malformedRequest => "JSON decode error"

/-- A kind of mismatch at a place. -/
structure Problem where
  kind : ProblemKind
  path : List PathStep
  deriving Repr, DecidableEq

namespace Problem

/-- The same problem, seen from one step above. -/
def under (step : PathStep) (p : Problem) : Problem := { p with path := step :: p.path }

/-- A problem of a field of the record at hand. -/
def ofField (name : String) (kind : ProblemKind) : Problem := ⟨kind, [.field name]⟩

/-- The place and the words. -/
def text (p : Problem) : String :=
  let place := if p.path.isEmpty then "<root>" else ".".intercalate (p.path.map PathStep.text)
  place ++ ": " ++ p.kind.message

/-- A problem as JSON. -/
def toJson (p : Problem) : Json :=
  .obj [("type", .str p.kind.code), ("loc", .arr (p.path.map PathStep.toJson)),
    ("msg", .str p.kind.message)]

/-- Problems in words. -/
def textOfAll (problems : List Problem) : String := "; ".intercalate (problems.map text)

end Problem

/-! ### Reading all fields before failing -/

/-- A result, or all the problems that stand in its way. -/
abbrev Checked (α : Type) := Except (List Problem) α

namespace Checked

/-- A refusal for one reason, at the place at hand. -/
def refuse {α : Type} (kind : ProblemKind) : Checked α := .error [⟨kind, []⟩]

/-- Read at a place one step down. -/
def under {α : Type} (step : PathStep) (r : Checked α) : Checked α :=
  r.mapError (List.map (Problem.under step))

/-- Two results, or the problems of the first before those of the second. -/
def both {α β : Type} : Checked α → Checked β → Checked (α × β)
  | .ok a, .ok b => .ok (a, b)
  | .ok _, .error q => .error q
  | .error p, .ok _ => .error p
  | .error p, .error q => .error (p ++ q)

/-- The results of all items from position `n` on, or the problems of all of them in order. -/
def items {α β : Type} (f : α → Checked β) (n : Nat) : List α → Checked (List β)
  | [] => .ok []
  | item :: rest =>
    (both (under (.index n) (f item)) (items f (n + 1) rest)).map fun p => p.1 :: p.2

end Checked

end DeviceRelay
