/-!
# Places in a YAML text

A cursor stands before some character of a text and knows what follows, how many characters and lines
lie behind it, and in which column it is. YAML gives meaning to columns, so every scanner moves one.
-/

namespace DeviceRelay.Yaml

/-- What goes wrong with a YAML text. Most texts that are refused count as unreadable; a few scalars
break the reader of their kind, and that fault comes out as it is. -/
inductive Fault where
  | unreadable
  | foreign (kind message : String)
  deriving Repr, DecidableEq

/-- The end of the text, where a character is expected; no text holds it. -/
def endMark : Char := '\x00'

/-- The characters that end a line. -/
def isBreak (c : Char) : Bool :=
  c == '\n' || c == '\r' || c == '\x85' || c == '\u2028' || c == '\u2029'

/-- The ends of a line and of the text. -/
def endsLine (c : Char) : Bool := c == endMark || isBreak c

/-- The ends of a line and a space. -/
def endsWord (c : Char) : Bool := c == ' ' || endsLine c

/-- The ends of a line and blanks: what may stand behind an indicator. -/
def isGap (c : Char) : Bool := c == '\t' || endsWord c

/-- The characters of names: anchors, handles and directives. -/
def inName (c : Char) : Bool := c.isAlphanum || c == '-' || c == '_'

/-- A place in a text. -/
structure Cursor where
  rest : List Char
  index : Nat
  line : Nat
  column : Nat

namespace Cursor

/-- The start of a text. -/
def start (text : List Char) : Cursor := ⟨text, 0, 0, 0⟩

/-- The character that is `k` places ahead. -/
def ahead (c : Cursor) (k : Nat) : Char := (c.rest.drop k).headD endMark

/-- The next character. -/
def peek (c : Cursor) : Char := c.rest.headD endMark

/-- Pass one character. A byte order mark takes no column. -/
def next (c : Cursor) : Cursor :=
  match c.rest with
  | [] => c
  | ch :: rest =>
    if isBreak ch then ⟨rest, c.index + 1, c.line + 1, 0⟩
    else ⟨rest, c.index + 1, c.line, if ch = '\uFEFF' then c.column else c.column + 1⟩

/-- Pass `n` characters. -/
def skip (c : Cursor) : Nat → Cursor
  | 0 => c
  | n + 1 => c.next.skip n

/-- The run of characters that satisfy `p`, and the place behind it. -/
def span (c : Cursor) (p : Char → Bool) : List Char × Cursor :=
  let run := c.rest.takeWhile p
  (run, c.skip run.length)

/-- The place behind the run of characters that satisfy `p`. -/
def pass (c : Cursor) (p : Char → Bool) : Cursor := (c.span p).2

/-- The place behind the spaces. -/
def passSpaces (c : Cursor) : Cursor := c.pass (· == ' ')

/-- Pass one line break, if there is one; it counts as a line feed unless it is one of the two
separators of lines and paragraphs. -/
def lineBreak (c : Cursor) : List Char × Cursor :=
  match c.peek with
  | '\r' => (['\n'], if c.ahead 1 = '\n' then c.skip 2 else c.next)
  | '\n' | '\x85' => (['\n'], c.next)
  | '\u2028' => (['\u2028'], c.next)
  | '\u2029' => (['\u2029'], c.next)
  | _ => ([], c)

/-- Whether three marks, and nothing else, stand here. -/
def atTriple (c : Cursor) (mark : Char) : Bool :=
  c.ahead 0 == mark && c.ahead 1 == mark && c.ahead 2 == mark && isGap (c.ahead 3)

/-- Whether a mark of a document's start or end stands here. -/
def atSeparator (c : Cursor) : Bool := c.atTriple '-' || c.atTriple '.'

/-- The rest of a line that may hold nothing but a comment, behind its break. -/
def finishLine (c : Cursor) : Except Fault Cursor :=
  let c := c.passSpaces
  let c := if c.peek = '#' then c.pass (!endsLine ·) else c
  if endsLine c.peek then .ok c.lineBreak.2 else .error .unreadable

end Cursor

end DeviceRelay.Yaml
