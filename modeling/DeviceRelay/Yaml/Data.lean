import DeviceRelay.Binary64
import DeviceRelay.Bytes
import DeviceRelay.Text.Loose
import DeviceRelay.Timestamp

/-!
# YAML data

What a YAML document says: plain data, dates, octets, and collections of data. A text may be torn. The keys
of a mapping are any data but collections; of two keys that are equal the first keeps its place and the last
gives the value. Numbers and truth values are equal if their numbers are, and timestamps if they are one
instant.
-/

namespace DeviceRelay.Yaml

/-- Data. -/
inductive Data where
  | null
  | bool (value : Bool)
  | int (value : Int)
  | float (value : Binary64)
  | text (value : String)
  | torn (value : TornText)
  | bytes (value : Bytes)
  | date (value : Date)
  | instant (value : Timestamp)
  | list (items : List Data)
  | tuple (items : List Data)
  | set (members : List Data)
  | dict (entries : List (Data × Data))
  deriving Repr, Inhabited

namespace Data

/-- A text as data. -/
def ofText : LooseText → Data
  | .text s => .text s
  | .torn t => .torn t

/-- Whether the data is nothing, false, zero or empty. -/
def isVoid : Data → Bool
  | .null => true
  | .bool b => !b
  | .int n => n == 0
  | .float x => x.toInt? == some 0
  | .text s => s.isEmpty
  | .torn _ => false
  | .bytes b => b.isEmpty
  | .date _ | .instant _ => false
  | .list items => items.isEmpty
  | .tuple items => items.isEmpty
  | .set members => members.isEmpty
  | .dict entries => entries.isEmpty

/-- The number that the data is equal to, if there is one: truth values count as one and zero. -/
def number? : Data → Option (Int × Nat)
  | .bool b => some (if b then 1 else 0, 1)
  | .int n => some (n, 1)
  | .float x => x.quotient?
  | _ => none

/-- Whether two timestamps are one instant; where the offset is unknown, one reading of the clock. -/
def sameInstant (a b : Timestamp) : Bool :=
  match a.offset, b.offset with
  | some p, some q => a.wall - p == b.wall - q
  | none, none => a.wall == b.wall
  | _, _ => false

/-- Whether two keys are equal. -/
def sameKey (a b : Data) : Bool :=
  match number? a, number? b with
  | some (p, q), some (r, s) => p * s == r * q
  | none, none =>
    match a, b with
    | .null, .null => true
    | .float x, .float y => x == y
    | .text s, .text t => s == t
    | .torn s, .torn t => s == t
    | .bytes s, .bytes t => s == t
    | .date s, .date t => s == t
    | .instant s, .instant t => sameInstant s t
    | _, _ => false
  | _, _ => false

/-- Give a key a value: in its place if it is there, at the end otherwise. -/
def putKey {α : Type} (key : Data) (value : α) : List (Data × α) → List (Data × α)
  | [] => [(key, value)]
  | (k, v) :: rest => if sameKey k key then (k, value) :: rest else (k, v) :: putKey key value rest

/-- Entries of which the last for each key counts, in the place of the first. -/
def lastForKeys {α : Type} (entries : List (Data × α)) : List (Data × α) :=
  entries.foldl (fun done e => putKey e.1 e.2 done) []

end Data

end DeviceRelay.Yaml
