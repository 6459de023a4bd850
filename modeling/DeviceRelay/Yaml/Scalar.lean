import DeviceRelay.Bytes
import DeviceRelay.Text.Loose
import DeviceRelay.Yaml.Cursor

/-!
# YAML scalars

A scalar is written plainly, between quotes of two kinds, or as a block of lines. In each form line
breaks are folded: one becomes a space, of several the first is dropped; blocks fold only if asked to.
Every scanner here takes the cursor before the scalar and gives its text and the cursor behind it. Only
escapes between quotes can name a code point that is no character.
-/

namespace DeviceRelay.Yaml

/-- What a folded run of breaks becomes. -/
def folded (first : List Char) (others : List Char) : List Char :=
  if first ≠ ['\n'] then first ++ others
  else if others.isEmpty then [' ']
  else others

/-! ### Plain scalars -/

/-- What ends a plain run in front of `c`, when `after` comes next: a blank, a colon that a blank
follows, and inside brackets the marks of collections. -/
def endsPlain (inFlow : Bool) (c after : Char) : Bool :=
  isGap c || (c == ':' && (isGap after || (inFlow && ",[]\x7b\x7d".toList.contains after))) ||
    (inFlow && ",?[]\x7b\x7d".toList.contains c)

/-- The leading plain run. -/
def plainRun (inFlow : Bool) : List Char → List Char
  | [] => []
  | c :: rest => if endsPlain inFlow c (rest.headD endMark) then [] else c :: plainRun inFlow rest

/-- Breaks and spaces; the flag says that they end at a separator of documents. -/
def plainBreaks : Nat → Cursor → List Char → List Char × Cursor × Bool
  | 0, c, breaks => (breaks, c, false)
  | fuel + 1, c, breaks =>
    if c.peek = ' ' then plainBreaks fuel c.next breaks
    else if isBreak c.peek then
      let (b, c) := c.lineBreak
      if c.atSeparator then ([], c, true) else plainBreaks fuel c (breaks ++ b)
    else (breaks, c, false)

/-- What stands between two runs of a plain scalar: spaces, or folded breaks. The flag says whether a
line ended. -/
def plainGap (c : Cursor) : List Char × Cursor × Bool :=
  let (spaces, c) := c.span (· == ' ')
  if isBreak c.peek then
    let (first, c) := c.lineBreak
    if c.atSeparator then ([], c, true)
    else
      let (others, c, stopped) := plainBreaks c.rest.length c []
      (if stopped then [] else folded first others, c, true)
  else (spaces, c, false)

/-- The rest of a plain scalar; `gap` stands before the next run. Lines that go on must be indented
by `indent` outside brackets. -/
def plainRest (inFlow : Bool) (indent : Nat) : Nat → Cursor → List Char → Bool →
    List Char × Cursor × Bool
  | 0, c, _, broke => ([], c, broke)
  | fuel + 1, c, gap, broke =>
    if c.peek = '#' then ([], c, broke)
    else
      let run := plainRun inFlow c.rest
      if run.isEmpty then ([], c, broke)
      else
        let (nextGap, after, broke) := plainGap (c.skip run.length)
        let text := gap ++ run
        if nextGap.isEmpty || after.peek == '#' || (!inFlow && after.column < indent) then
          (text, after, broke)
        else
          let (tail, after, broke) := plainRest inFlow indent fuel after nextGap broke
          (text ++ tail, after, broke)

/-- A plain scalar. The flag says that a line ended behind it, so that a key may begin. -/
def plainScalar (inFlow : Bool) (indent : Nat) (c : Cursor) : List Char × Cursor × Bool :=
  plainRest inFlow indent (c.rest.length + 1) c [] false

/-! ### Quoted scalars -/

/-- The characters that one letter behind a backslash stands for. -/
def escaped? : Char → Option Char
  | '0' => some '\x00'
  | 'a' => some '\x07'
  | 'b' => some '\x08'
  | 't' | '\t' => some '\t'
  | 'n' => some '\n'
  | 'v' => some '\x0b'
  | 'f' => some '\x0c'
  | 'r' => some '\r'
  | 'e' => some '\x1b'
  | ' ' => some ' '
  | '"' => some '"'
  | '\\' => some '\\'
  | '/' => some '/'
  | 'N' => some '\x85'
  | '_' => some '\xa0'
  | 'L' => some '\u2028'
  | 'P' => some '\u2029'
  | _ => none

/-- The number of hexadecimal digits that a letter behind a backslash announces. -/
def escapeWidth? : Char → Option Nat
  | 'x' => some 2
  | 'u' => some 4
  | 'U' => some 8
  | _ => none

/-- The code point of a number in an escape. -/
def pointOf (code : Nat) : Except Fault CodePoint :=
  if 0x7FFFFFFF < code then
    .error (.foreign "OverflowError" "Python int too large to convert to C int")
  else match CodePoint.ofNat? code with
    | some point => .ok point
    | none => .error (.foreign "ValueError" "chr() arg not in range(0x110000)")

/-- The code point that hexadecimal digits name. -/
def hexPoint (c : Cursor) (width : Nat) : Except Fault (CodePoint × Cursor) :=
  match (c.rest.take width).mapM Hex.value? with
  | none => .error .unreadable
  | some digits =>
    if digits.length < width then .error .unreadable
    else (pointOf (digits.foldl (fun n d => n * 16 + d) 0)).map (·, c.skip width)

/-- Breaks inside quotes; blanks around them are dropped. No separator of documents may stand at the
start of a line. -/
def quotedBreaks : Nat → Cursor → List Char → Except Fault (List Char × Cursor)
  | 0, c, breaks => .ok (breaks, c)
  | fuel + 1, c, breaks =>
    if c.atSeparator then .error .unreadable
    else
      let c := c.pass fun ch => ch == ' ' || ch == '\t'
      if isBreak c.peek then
        let (b, c) := c.lineBreak
        quotedBreaks fuel c (breaks ++ b)
      else .ok (breaks, c)

/-- Blanks or folded breaks inside quotes. -/
def quotedGap (c : Cursor) : Except Fault (List Char × Cursor) :=
  let (spaces, c) := c.span fun ch => ch == ' ' || ch == '\t'
  if c.peek = endMark then .error .unreadable
  else if isBreak c.peek then do
    let (first, c) := c.lineBreak
    let (others, c) ← quotedBreaks (c.rest.length + 1) c []
    .ok (folded first others, c)
  else .ok (spaces, c)

/-- An escape behind its backslash: a code point, or an end of line with the breaks that follow. -/
def quotedEscape (c : Cursor) : Except Fault (List CodePoint × Cursor) :=
  match escaped? c.peek, escapeWidth? c.peek with
  | some ch, _ => .ok ([.char ch], c.next)
  | none, some width => (hexPoint c.next width).map fun p => ([p.1], p.2)
  | none, none =>
    if isBreak c.peek then
      (quotedBreaks (c.rest.length + 1) c.lineBreak.2 []).map fun p => (p.1.map .char, p.2)
    else .error .unreadable

/-- The inside of a quoted scalar up to its closing quote. -/
def quotedRest (double : Bool) : Nat → Cursor → Except Fault (List CodePoint × Cursor)
  | 0, _ => .error .unreadable
  | fuel + 1, c => do
    let ch := c.peek
    if !double && ch == '\'' && c.ahead 1 == '\'' then
      let (tail, after) ← quotedRest double fuel (c.skip 2)
      .ok (.char '\'' :: tail, after)
    else if ch == (if double then '"' else '\'') then .ok ([], c.next)
    else if double && ch == '\\' then
      let (text, after) ← quotedEscape c.next
      let (tail, after) ← quotedRest double fuel after
      .ok (text ++ tail, after)
    else if isGap ch then
      let (text, after) ← quotedGap c
      let (tail, after) ← quotedRest double fuel after
      .ok (text.map .char ++ tail, after)
    else
      let (tail, after) ← quotedRest double fuel c.next
      .ok (.char ch :: tail, after)

/-- A quoted scalar, from its opening quote on. -/
def quotedScalar (double : Bool) (c : Cursor) : Except Fault (List CodePoint × Cursor) :=
  quotedRest double (c.rest.length + 1) c.next

/-! ### Blocks -/

/-- What becomes of the breaks behind a block. -/
inductive Chomping where
  | strip
  | clip
  | keep

/-- A sign behind the mark of a block. -/
def chompingOf? : Char → Option Chomping
  | '+' => some .keep
  | '-' => some .strip
  | _ => none

/-- An indentation behind the mark of a block; zero is refused. -/
def incrementOf (c : Cursor) : Except Fault (Option Nat × Cursor) :=
  if c.peek.isDigit then
    if c.peek = '0' then .error .unreadable else .ok (some (c.peek.toNat - '0'.toNat), c.next)
  else .ok (none, c)

/-- The sign and the indentation behind the mark of a block, in either order. -/
def blockHeader (c : Cursor) : Except Fault (Chomping × Option Nat × Cursor) := do
  let (chomping, increment, c) ←
    match chompingOf? c.peek with
    | some chomping => do
      let (increment, c) ← incrementOf c.next
      .ok (chomping, increment, c)
    | none => do
      let (increment, c) ← incrementOf c
      match increment, chompingOf? c.peek with
      | some _, some chomping => .ok (chomping, increment, c.next)
      | _, _ => .ok (Chomping.clip, increment, c)
  if endsWord c.peek then .ok (chomping, increment, c) else .error .unreadable

/-- Leading empty lines of a block, with the widest indentation among them and the first line. -/
def blockIndentation : Nat → Cursor → List Char → Nat → List Char × Nat × Cursor
  | 0, c, breaks, widest => (breaks, widest, c)
  | fuel + 1, c, breaks, widest =>
    if c.peek = ' ' then blockIndentation fuel c.next breaks (max widest c.next.column)
    else if isBreak c.peek then
      let (b, c) := c.lineBreak
      blockIndentation fuel c (breaks ++ b) widest
    else (breaks, widest, c)

/-- Pass spaces up to a column. -/
def passIndent (indent : Nat) (c : Cursor) : Cursor :=
  c.skip (min (indent - c.column) (c.rest.takeWhile (· == ' ')).length)

/-- Empty lines inside a block. -/
def blockBreaks (indent : Nat) : Nat → Cursor → List Char → List Char × Cursor
  | 0, c, breaks => (breaks, c)
  | fuel + 1, c, breaks =>
    let c := passIndent indent c
    if isBreak c.peek then
      let (b, c) := c.lineBreak
      blockBreaks indent fuel c (breaks ++ b)
    else (breaks, c)

/-- Whether a line of a block begins with a blank, and so is not folded. -/
def startsBlank (c : Cursor) : Bool := c.peek == ' ' || c.peek == '\t'

/-- The lines of a block from the first one on. `breaks` are the empty lines before it. -/
def blockLines (fold : Bool) (chomping : Chomping) (indent : Nat) :
    Nat → Cursor → List Char → List Char × Cursor
  | 0, c, _ => ([], c)
  | fuel + 1, c, breaks =>
    let (line, after) := c.span (!endsLine ·)
    let (lineEnd, after) := after.lineBreak
    let (others, after) := blockBreaks indent (after.rest.length + 1) after []
    if after.column = indent ∧ after.peek ≠ endMark then
      let joint :=
        if fold && lineEnd == ['\n'] && !startsBlank c && !startsBlank after then
          if others.isEmpty then [' '] else []
        else lineEnd
      let (tail, after) := blockLines fold chomping indent fuel after others
      (breaks ++ line ++ joint ++ tail, after)
    else
      let closing := match chomping with
        | .strip => []
        | .clip => lineEnd
        | .keep => lineEnd ++ others
      (breaks ++ line ++ closing, after)

/-- A block, from its mark on; `parent` is the least column that its lines may have. -/
def blockScalar (fold : Bool) (parent : Nat) (c : Cursor) : Except Fault (List Char × Cursor) := do
  let (chomping, increment, c) ← blockHeader c.next
  let c ← c.finishLine
  let least := max parent 1
  let (breaks, indent, c) :=
    match increment with
    | none =>
      let (breaks, widest, c) := blockIndentation (c.rest.length + 1) c [] 0
      (breaks, max least widest, c)
    | some n =>
      let indent := least + n - 1
      let (breaks, c) := blockBreaks indent (c.rest.length + 1) c []
      (breaks, indent, c)
  if c.column = indent ∧ c.peek ≠ endMark then
    .ok (blockLines fold chomping indent (c.rest.length + 1) c breaks)
  else
    .ok (match chomping with | .keep => breaks | _ => [], c)

end DeviceRelay.Yaml
