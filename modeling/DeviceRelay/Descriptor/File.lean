import DeviceRelay.Failure
import DeviceRelay.Registry.Packaged
import DeviceRelay.Text.Numeral
import DeviceRelay.Yaml.Construction

/-!
# Descriptor files

Descriptors may be written in a YAML file, as the items of a list under one key. A file that is missing
or cannot be read has no items, and an item that is no valid descriptor is passed over, so that a bad
entry never stands in the way of a good one. Three kinds of content are not forgiven: octets that are not
UTF-8, under the key a value that has no length, and in an item that is passed over a whole number of
too many digits.

    octets ──load──▶ Data ──items──▶ items ──descriptors──▶ List Descriptor
-/

namespace DeviceRelay

/-- A file as it is found. -/
inductive DescriptorFile where
  | missing
  | octets (content : Bytes)

namespace DescriptorFile

/-- The key of the descriptors. -/
def descriptorsKey : String := "protocol_descriptors"

/-- The fault of octets that are not UTF-8. A character that the end of the file cuts off is counted
from its own start. -/
def decodeFailure (f : Charset.DecodeFault) : Failure :=
  let f := if f.reason = .endOfData then { f with first := 0, last := f.last - f.first } else f
  .unexpected "UnicodeDecodeError" f.message

/-- The data of a file, if it can be read. A file without data counts as an empty mapping. The octets are decoded
before anything is read. A program that decodes a file piece by piece while it reads takes one as unreadable, and does
not fail, where the text breaks off more than a piece before the first octets that are not UTF-8. -/
def load : DescriptorFile → Except Failure (Option Yaml.Data)
  | .missing => .ok none
  | .octets content =>
    match Charset.Utf8.decode content with
    | .error f => .error (decodeFailure f)
    | .ok text =>
      match Yaml.read text with
      | .error .unreadable => .ok none
      | .error (.foreign kind message) => .error (.unexpected kind message)
      | .ok d => .ok (some (if d.isVoid then .dict [] else d))

/-- The name of a kind of data. -/
def kindName : Yaml.Data → String
  | .null => "NoneType"
  | .bool _ => "bool"
  | .int _ => "int"
  | .float _ => "float"
  | .text _ | .torn _ => "str"
  | .bytes _ => "bytes"
  | .date _ => "datetime.date"
  | .instant _ => "datetime.datetime"
  | .list _ => "list"
  | .tuple _ => "tuple"
  | .set _ => "set"
  | .dict _ => "dict"

/-- Whether data of the kind has a length. -/
def hasLength : Yaml.Data → Bool
  | .null | .bool _ | .int _ | .float _ | .date _ | .instant _ => false
  | .text _ | .torn _ | .bytes _ | .list _ | .tuple _ | .set _ | .dict _ => true

/-- The value of a key in a mapping. -/
def entry? (key : String) (entries : List (Yaml.Data × Yaml.Data)) : Option Yaml.Data :=
  (entries.find? fun e => e.1.sameKey (.text key)).map (·.2)

/-- What stands under the key of the descriptors; an empty list if there is nothing. -/
def itemsOf (data : Option Yaml.Data) : Except Failure Yaml.Data :=
  match data with
  | some (.dict entries) =>
    match entry? descriptorsKey entries with
    | none => .ok (.list [])
    | some d =>
      if d.isVoid then .ok (.list [])
      else if hasLength d then .ok d
      else .error (.unexpected "TypeError" s!"object of type '{kindName d}' has no len()")
  | _ => .ok (.list [])

/-- The items of a file. -/
def items (file : DescriptorFile) : Except Failure Yaml.Data := do
  itemsOf (← file.load)

/-- A text, or octets that spell one. -/
def text : Yaml.Data → Checked LooseText
  | .text s => .ok s
  | .torn t => .ok (.torn t)
  | .bytes b => (Record.textOfOctets b).map .text
  | _ => Checked.refuse .notText

/-- Whether a key is a text. -/
def isTextKey : Yaml.Data → Bool
  | .text _ | .torn _ => true
  | _ => false

/-- An entry under a name that a field may have, which no torn text is. -/
def named? : Yaml.Data × Yaml.Data → Option (String × Yaml.Data)
  | (.text name, value) => some (name, value)
  | _ => none

/-- The descriptor that an item is, if it is one: a mapping whose keys are texts and whose values fit
the fields. -/
def descriptor? (charset : LooseText) : Yaml.Data → Option Descriptor
  | .dict entries =>
    if entries.all fun e => isTextKey e.1 then
      (Descriptor.read text charset (Dictionary.ofList (entries.filterMap named?))).toOption
    else none
  | _ => none

mutual

/-- Whether all whole numbers in data may be written out. -/
def isWritable : Yaml.Data → Bool
  | .int n => Text.isWritable n
  | .list items | .tuple items | .set items => allWritable items
  | .dict entries => entriesWritable entries
  | _ => true

/-- Whether all whole numbers in items may be written out. -/
def allWritable : List Yaml.Data → Bool
  | [] => true
  | d :: rest => isWritable d && allWritable rest

/-- Whether all whole numbers in keys and values may be written out. -/
def entriesWritable : List (Yaml.Data × Yaml.Data) → Bool
  | [] => true
  | (k, v) :: rest => isWritable k && isWritable v && entriesWritable rest

end

/-- What there is to go through: items of a list, members of a set, the keys of a mapping. No other
data holds a descriptor, or a number that could be in the way of one. -/
def parts : Yaml.Data → List Yaml.Data
  | .list items | .tuple items | .set items => items
  | .dict entries => entries.map (·.1)
  | _ => []

/-- The valid descriptors among parts, in order. A part that is passed over is written out, which
numbers of too many digits do not allow. -/
def validAmong (charset : LooseText) : List Yaml.Data → Except Failure (List Descriptor)
  | [] => .ok []
  | d :: rest =>
    match descriptor? charset d with
    | some descriptor => (validAmong charset rest).map (descriptor :: ·)
    | none =>
      if isWritable d then validAmong charset rest
      else .error (.unexpected "ValueError" Text.unwritableMessage)

/-- The valid descriptors of a file; `charset` is the charset of one that names none. -/
def descriptors (charset : LooseText) (file : DescriptorFile) : Except Failure (List Descriptor) := do
  let items ← file.items
  validAmong charset (parts items)

/-- The provider of a file's descriptors. -/
def provider (charset : LooseText) (file : DescriptorFile) : Except Failure Provider := do
  let ds ← file.descriptors charset
  .ok (.ofList ds)

end DescriptorFile

/-- The registry that asks an extra file before the packaged descriptors. -/
def Registry.withFile (charset : LooseText) (extra : Option DescriptorFile) : Except Failure Registry :=
  match extra with
  | none => .ok .packaged
  | some file => do
    let p ← file.provider charset
    .ok ⟨[p, .packaged]⟩

end DeviceRelay
