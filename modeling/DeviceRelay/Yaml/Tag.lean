import DeviceRelay.Charset.Utf8
import DeviceRelay.Yaml.Cursor

/-!
# YAML names: anchors, tags and directives

A tag is written as a handle and a suffix; the handle stands for a beginning that a directive, or the
default, gives it. A tag in angle brackets, and a lone exclamation mark, have no handle.
-/

namespace DeviceRelay.Yaml

/-- A tag as it is written. -/
structure WrittenTag where
  handle : Option String
  suffix : String
  deriving Repr, DecidableEq

/-- A directive. Those with other names have no effect. -/
inductive Directive where
  | version (major : Nat)
  | handle (name start : String)
  | other
  deriving Repr, DecidableEq

/-- The name of an anchor behind its mark. -/
def anchorName (c : Cursor) : Except Fault (String × Cursor) :=
  let (name, c) := c.next.span inName
  if name.isEmpty then .error .unreadable
  else if isGap c.peek || "?:,]\x7d%@`".toList.contains c.peek then .ok (String.ofList name, c)
  else .error .unreadable

/-- A handle: one exclamation mark, or a name between two. -/
def tagHandle (c : Cursor) : Except Fault (String × Cursor) :=
  if c.peek ≠ '!' then .error .unreadable
  else
    let (name, after) := c.next.span inName
    if c.ahead 1 = ' ' then .ok ("!", c.next)
    else if after.peek = '!' then .ok (String.ofList ('!' :: (name ++ ['!'])), after.next)
    else .error .unreadable

/-- The characters of a tag's suffix. -/
def inUri (c : Char) : Bool := c.isAlphanum || "-;/?:@&=+$,_.!~*'()[]%".toList.contains c

/-- The octets that a run of percent escapes stands for. -/
def percentOctets : Nat → Cursor → Except Fault (Bytes × Cursor)
  | 0, c => .ok ([], c)
  | fuel + 1, c =>
    if c.peek ≠ '%' then .ok ([], c)
    else match Hex.value? (c.ahead 1), Hex.value? (c.ahead 2) with
      | some high, some low => do
        let (tail, after) ← percentOctets fuel (c.skip 3)
        .ok (UInt8.ofNat (high * 16 + low) :: tail, after)
      | _, _ => .error .unreadable

/-- The characters of a suffix, escapes undone. -/
def uriChars : Nat → Cursor → Except Fault (List Char × Cursor)
  | 0, c => .ok ([], c)
  | fuel + 1, c =>
    if c.peek = '%' then do
      let (octets, after) ← percentOctets c.rest.length c
      match Charset.Utf8.decode octets with
      | .error _ => .error .unreadable
      | .ok text =>
        let (tail, after) ← uriChars fuel after
        .ok (text ++ tail, after)
    else if inUri c.peek then do
      let (tail, after) ← uriChars fuel c.next
      .ok (c.peek :: tail, after)
    else .ok ([], c)

/-- A suffix; it is not empty. -/
def tagUri (c : Cursor) : Except Fault (String × Cursor) := do
  if !inUri c.peek then .error .unreadable
  else
    let (text, after) ← uriChars (c.rest.length + 1) c
    .ok (String.ofList text, after)

/-- Whether the word behind an exclamation mark holds another one. -/
def hasHandle (c : Cursor) : Bool := (c.rest.takeWhile (!endsWord ·)).contains '!'

/-- A tag, from its exclamation mark on. -/
def writtenTag (c : Cursor) : Except Fault (WrittenTag × Cursor) := do
  let (tag, after) ←
    if c.ahead 1 = '<' then do
      let (suffix, after) ← tagUri (c.skip 2)
      if after.peek = '>' then .ok (⟨none, suffix⟩, after.next) else .error .unreadable
    else if isGap (c.ahead 1) then .ok (⟨none, "!"⟩, c.next)
    else do
      let (handle, after) ← if hasHandle c.next then tagHandle c else .ok ("!", c.next)
      let (suffix, after) ← tagUri after
      .ok ((⟨some handle, suffix⟩ : WrittenTag), after)
  if endsWord after.peek then .ok (tag, after) else .error .unreadable

/-- A number in a directive. -/
def directiveNumber (c : Cursor) : Except Fault (Nat × Cursor) :=
  let (digits, c) := c.span Char.isDigit
  if digits.isEmpty then .error .unreadable
  else .ok (digits.foldl (fun n d => n * 10 + (d.toNat - '0'.toNat)) 0, c)

/-- The value of a version directive: two numbers with a point between. -/
def versionValue (c : Cursor) : Except Fault (Directive × Cursor) := do
  let (major, c) ← directiveNumber c.passSpaces
  if c.peek ≠ '.' then .error .unreadable
  else
    let (_, c) ← directiveNumber c.next
    if endsWord c.peek then .ok (.version major, c) else .error .unreadable

/-- The value of a handle's directive: the handle and the beginning that it stands for. -/
def handleValue (c : Cursor) : Except Fault (Directive × Cursor) := do
  let (name, c) ← tagHandle c.passSpaces
  if c.peek ≠ ' ' then .error .unreadable
  else
    let (start, c) ← tagUri c.passSpaces
    if endsWord c.peek then .ok (.handle name start, c) else .error .unreadable

/-- A directive, from its percent sign on. -/
def directive (c : Cursor) : Except Fault (Directive × Cursor) := do
  let (name, c) := c.next.span inName
  if name.isEmpty || !endsWord c.peek then .error .unreadable
  else
    let (value, c) ←
      if name = "YAML".toList then versionValue c
      else if name = "TAG".toList then handleValue c
      else .ok (.other, c.pass (!endsLine ·))
    .ok (value, ← c.finishLine)

end DeviceRelay.Yaml
