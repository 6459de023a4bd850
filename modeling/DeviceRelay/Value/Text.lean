import DeviceRelay.Value
import DeviceRelay.Binary64.Text
import DeviceRelay.Text.Numeral
import DeviceRelay.Text.Quoted
import DeviceRelay.Timestamp.Text

/-!
# Values in messages

An error text may name a value. `Value.shown` writes it so that its kind can be seen: texts between
quotes, octets behind a `b`, a comma behind the only item of a tuple, a timestamp as a call. `Value.plain`
leaves a text as it is, has a timestamp in words and writes everything else as `shown` does. An integer with too
many digits is never written out, so neither is a value that holds one.
-/

namespace DeviceRelay.Value

/-- Floating-point numbers are written positionally below `10 ^ 16`, and the values that are no numbers
have names in small letters. -/
def numberLayout : Binary64.Layout where
  nan := "nan"
  infinity := "inf"

mutual

/-- A value with its kind. -/
def shown : Value → String
  | .null => "None"
  | .bool true => "True"
  | .bool false => "False"
  | .int n => toString n
  | .float x => x.text numberLayout
  | .text s => Text.quoted s
  | .bytes b => Text.quotedBytes b
  | .buffer b => "bytearray(" ++ Text.quotedBytes b ++ ")"
  | .list items => "[" ++ shownItems items ++ "]"
  | .tuple [] => "()"
  | .tuple [item] => "(" ++ shown item ++ ",)"
  | .tuple (item :: rest) => "(" ++ shown item ++ ", " ++ shownItems rest ++ ")"
  | .dict entries => "\x7b" ++ shownEntries entries ++ "\x7d"
  | .instant t => t.call
  | .object => "object"

/-- Items with commas between them. -/
def shownItems : List Value → String
  | [] => ""
  | [item] => shown item
  | item :: rest => shown item ++ ", " ++ shownItems rest

/-- Entries with commas between them. -/
def shownEntries : List (String × Value) → String
  | [] => ""
  | [(name, v)] => Text.quoted name ++ ": " ++ shown v
  | (name, v) :: rest => Text.quoted name ++ ": " ++ shown v ++ ", " ++ shownEntries rest

end

/-- A text as it is, a timestamp in words, and any other value with its kind. -/
def plain : Value → String
  | .text s => s
  | .instant t => t.spacedText
  | v => shown v

mutual

/-- Whether every integer of the value may be written out. -/
def isWritable : Value → Bool
  | .int n => Text.isWritable n
  | .list items => allWritable items
  | .tuple items => allWritable items
  | .dict entries => entriesWritable entries
  | _ => true

/-- Whether every integer of the items may be written out. -/
def allWritable : List Value → Bool
  | [] => true
  | v :: rest => isWritable v && allWritable rest

/-- Whether every integer of the entries may be written out. -/
def entriesWritable : List (String × Value) → Bool
  | [] => true
  | (_, v) :: rest => isWritable v && entriesWritable rest

end

end DeviceRelay.Value
