import DeviceRelay.Charset.Utf8
import DeviceRelay.Problem
import DeviceRelay.Timestamp.Text
import DeviceRelay.Value

/-!
# Reading records leniently

A record that a connector or a configuration hands over comes as a dictionary of values. A field takes
some kinds beside its own: octets that are UTF-8 pass for a text, a text for its octets, a number for a
timestamp. Fields that the record does not know are passed over.
-/

namespace DeviceRelay.Record

/-- The text that octets spell. -/
def textOfOctets (b : Bytes) : Checked String :=
  match Charset.Utf8.toText? b with
  | some s => .ok s
  | none => Checked.refuse .notUnicode

/-- A text, or octets that spell one. -/
def text : Value → Checked String
  | .text s => .ok s
  | .bytes b | .buffer b => textOfOctets b
  | _ => Checked.refuse .notText

/-- A dictionary. -/
def dictionary : Value → Checked (Dictionary Value)
  | .dict entries => .ok (Dictionary.ofList entries)
  | _ => Checked.refuse .notDictionary

/-- Octets, or the octets of a text. -/
def octets : Value → Checked Bytes
  | .bytes b | .buffer b => .ok b
  | .text s => .ok (Charset.Utf8.ofText s)
  | _ => Checked.refuse .notBytes

/-- The outcome of reading a timestamp. -/
def instantOf : Except Timestamp.ReadFault Timestamp → Checked Timestamp
  | .ok t => .ok t
  | .error .badText => Checked.refuse .badTimestamp
  | .error .badNumber | .error .yearZero => Checked.refuse .farTimestamp

/-- An integer as a timestamp. One that does not fit 64 bits is taken as a floating-point number, and
one beyond those is of no kind that could be a timestamp. -/
def instantOfInt (n : Int) : Checked Timestamp :=
  if -0x8000000000000000 ≤ n ∧ n < 0x8000000000000000 then instantOf (Timestamp.ofUnix n)
  else
    let x := Binary64.ofInt n
    if x.isFinite then instantOf (Timestamp.ofFloat x) else Checked.refuse .notTimestamp

/-- A timestamp, a text that spells one, or a number of seconds. -/
def instant : Value → Checked Timestamp
  | .instant t => .ok t
  | .text s => instantOf (Timestamp.read s)
  | .bytes b =>
    match Charset.Utf8.toText? b with
    | some s => instantOf (Timestamp.read s)
    | none => Checked.refuse .badTimestamp
  | .int n => instantOfInt n
  | .float x => instantOf (Timestamp.ofFloat x)
  | _ => Checked.refuse .notTimestamp

/-- Null, or what `f` takes. -/
def nullable {α : Type} (f : Value → Checked α) : Value → Checked (Option α)
  | .null => .ok none
  | v => (f v).map some

/-- A field that has to be there. -/
def required {α β : Type} (record : Dictionary β) (name : String) (f : β → Checked α) : Checked α :=
  match record.get? name with
  | none => .error [.ofField name .missing]
  | some v => Checked.under (.field name) (f v)

/-- A field that may be left out. -/
def withDefault {α β : Type} (record : Dictionary β) (name : String) (value : α) (f : β → Checked α) : Checked α :=
  match record.get? name with
  | none => .ok value
  | some v => Checked.under (.field name) (f v)

end DeviceRelay.Record
