import DeviceRelay.Yaml.Scalar
import DeviceRelay.Yaml.Tag

/-!
# The tokens of a YAML text

Indentation becomes tokens of its own: a block collection has a start and an end in the row. Whether a
scalar, or a collection in brackets, is the key of a mapping shows only when a colon follows it. So the
row gets a *candidate* where a key may begin, and the colon tells which candidate was one; at the end
candidates that were keys become tokens and the others vanish.

    text ──fetch──▶ tokens and candidates ──resolve──▶ tokens

A candidate is good for one line and a thousand and some characters. Outside brackets, one that stands
at the column of the mapping around it has to be a key.
-/

namespace DeviceRelay.Yaml

/-- A token. The end of the row is the end of the text. -/
inductive Token where
  | directive (directive : Directive)
  | documentStart
  | documentEnd
  | blockSequenceStart
  | blockMappingStart
  | blockEnd
  | flowSequenceStart
  | flowSequenceEnd
  | flowMappingStart
  | flowMappingEnd
  | blockEntry
  | flowEntry
  | key
  | value
  | reference (name : String)
  | anchor (name : String)
  | tag (tag : WrittenTag)
  | scalar (text : LooseText) (plain : Bool)
  /-- The text cannot be read on. -/
  | bad (fault : Fault)
  deriving Repr, DecidableEq

/-- A token, or a place where a key may begin. -/
inductive Entry where
  | token (t : Token)
  | candidate (number : Nat)

/-- A candidate that no colon has reached yet. -/
structure Candidate where
  number : Nat
  /-- The number of brackets around it. -/
  level : Nat
  required : Bool
  index : Nat
  line : Nat
  column : Nat

/-- How far a scanner has come. -/
structure Scan where
  cursor : Cursor
  /-- The row so far, last first. -/
  row : List Entry
  /-- The candidates that turned out to be keys, and whether they start a mapping. -/
  keys : List (Nat × Bool)
  candidates : List Candidate
  /-- The number of candidates so far. -/
  count : Nat
  /-- The number of open brackets. -/
  level : Nat
  /-- The column of the innermost block collection; -1 outside all. -/
  indent : Int
  /-- The columns of those around it. -/
  outer : List Int
  /-- Whether a key may begin here. -/
  keyAllowed : Bool

namespace Scan

/-- Before the first token. -/
def start (text : List Char) : Scan := ⟨.start text, [], [], [], 0, 0, -1, [], true⟩

/-- Whether brackets are open. -/
def inFlow (s : Scan) : Bool := s.level != 0

/-- Add a token to the row. -/
def emit (s : Scan) (t : Token) : Scan := { s with row := .token t :: s.row }

/-- Pass `n` characters. -/
def skip (s : Scan) (n : Nat) : Scan := { s with cursor := s.cursor.skip n }

/-- Whether a candidate is too far back. -/
def isStale (s : Scan) (k : Candidate) : Bool :=
  k.line != s.cursor.line || k.index + 1024 < s.cursor.index

/-- Forget the candidates that are too far back. -/
def dropStale (s : Scan) : Except Fault Scan :=
  if s.candidates.any fun k => s.isStale k && k.required then .error .unreadable
  else .ok { s with candidates := s.candidates.filter fun k => !s.isStale k }

/-- Forget the candidate inside the innermost brackets. -/
def dropCandidate (s : Scan) : Except Fault Scan :=
  if s.candidates.any fun k => k.level == s.level && k.required then .error .unreadable
  else .ok { s with candidates := s.candidates.filter fun k => k.level != s.level }

/-- Note that a key may begin here. -/
def addCandidate (s : Scan) : Except Fault Scan :=
  if !s.keyAllowed then .ok s
  else do
    let s ← s.dropCandidate
    let c := s.cursor
    let required := !s.inFlow && s.indent == c.column
    .ok { s with
      row := .candidate s.count :: s.row
      candidates := ⟨s.count, s.level, required, c.index, c.line, c.column⟩ :: s.candidates
      count := s.count + 1 }

/-- Close the block collections to the right of a column. -/
def unwindTo (column : Int) : List Int → Scan → Scan
  | [], s => s
  | outer :: rest, s =>
    if column < s.indent then unwindTo column rest { s.emit .blockEnd with indent := outer, outer := rest }
    else s

/-- Close the block collections to the right of a column, unless brackets are open. -/
def unwind (s : Scan) (column : Int) : Scan := if s.inFlow then s else unwindTo column s.outer s

/-- Whether a column is further in than the innermost block collection. -/
def isDeeper (s : Scan) (column : Nat) : Bool := s.indent < column

/-- Open a block collection at a column. -/
def indentTo (s : Scan) (column : Nat) : Scan :=
  { s with indent := column, outer := s.indent :: s.outer }

/-- Open a block collection here, if this is further in. -/
def openBlock (s : Scan) (t : Token) : Scan :=
  if s.isDeeper s.cursor.column then (s.indentTo s.cursor.column).emit t else s

/-! ### Kinds of tokens -/

/-- What begins a document or a directive ends all that came before. -/
def closeAll (s : Scan) : Except Fault Scan := do
  let s ← (s.unwind (-1)).dropCandidate
  .ok { s with keyAllowed := false }

/-- A directive. -/
def fetchDirective (s : Scan) : Except Fault Scan := do
  let s ← s.closeAll
  let (d, c) ← Yaml.directive s.cursor
  .ok ({ s with cursor := c }.emit (.directive d))

/-- The mark of a document's start or end. -/
def fetchSeparator (s : Scan) (t : Token) : Except Fault Scan := do
  let s ← s.closeAll
  .ok ((s.skip 3).emit t)

/-- An opening bracket. -/
def fetchOpening (s : Scan) (t : Token) : Except Fault Scan := do
  let s ← s.addCandidate
  .ok ({ s.skip 1 with level := s.level + 1, keyAllowed := true }.emit t)

/-- A closing bracket. -/
def fetchClosing (s : Scan) (t : Token) : Except Fault Scan := do
  let s ← s.dropCandidate
  if s.level = 0 then .error .unreadable
  else .ok ({ s.skip 1 with level := s.level - 1, keyAllowed := false }.emit t)

/-- A comma. -/
def fetchFlowEntry (s : Scan) : Except Fault Scan := do
  let s ← s.dropCandidate
  .ok ({ s.skip 1 with keyAllowed := true }.emit .flowEntry)

/-- The dash of an item. -/
def fetchBlockEntry (s : Scan) : Except Fault Scan := do
  if !s.inFlow && !s.keyAllowed then .error .unreadable
  else
    let s ← (if s.inFlow then s else s.openBlock .blockSequenceStart).dropCandidate
    .ok ({ s.skip 1 with keyAllowed := true }.emit .blockEntry)

/-- The question mark of a key. -/
def fetchKey (s : Scan) : Except Fault Scan := do
  if !s.inFlow && !s.keyAllowed then .error .unreadable
  else
    let s ← (if s.inFlow then s else s.openBlock .blockMappingStart).dropCandidate
    .ok ({ s.skip 1 with keyAllowed := !s.inFlow }.emit .key)

/-- A colon behind a candidate: the candidate is a key. -/
def settle (s : Scan) (k : Candidate) : Scan :=
  let starts := !s.inFlow && s.isDeeper k.column
  let s := if starts then s.indentTo k.column else s
  { s with
    keys := (k.number, starts) :: s.keys
    candidates := s.candidates.filter fun k => k.level != s.level
    keyAllowed := false }

/-- A colon. -/
def fetchValue (s : Scan) : Except Fault Scan := do
  match s.candidates.find? fun k => k.level == s.level with
  | some k => .ok (((s.settle k).skip 1).emit .value)
  | none =>
    if !s.inFlow && !s.keyAllowed then .error .unreadable
    else
      let s := if s.inFlow then s else s.openBlock .blockMappingStart
      .ok ({ s.skip 1 with keyAllowed := !s.inFlow }.emit .value)

/-- What may be a key by itself; `f` reads it. -/
def fetchNode (s : Scan) (f : Cursor → Except Fault (Token × Cursor)) : Except Fault Scan := do
  let s ← s.addCandidate
  let (t, c) ← f s.cursor
  .ok ({ s with cursor := c, keyAllowed := false }.emit t)

/-- A block of lines. -/
def fetchBlock (s : Scan) (fold : Bool) : Except Fault Scan := do
  let s ← s.dropCandidate
  let (text, c) ← blockScalar fold (s.indent + 1).toNat s.cursor
  .ok ({ s with cursor := c, keyAllowed := true }.emit (.scalar (.text (String.ofList text)) false))

/-- A plain scalar. -/
def fetchPlain (s : Scan) : Except Fault Scan := do
  let s ← s.addCandidate
  let (text, c, broke) := plainScalar s.inFlow (s.indent + 1).toNat s.cursor
  .ok ({ s with cursor := c, keyAllowed := broke }.emit (.scalar (.text (String.ofList text)) true))

/-- Whether a plain scalar may begin here. -/
def startsPlain (s : Scan) : Bool :=
  let ch := s.cursor.peek
  let after := s.cursor.ahead 1
  (!isGap ch && !"-?:,[]\x7b\x7d#&*!|>'\"%@`".toList.contains ch) ||
    (!isGap after && (ch == '-' || (!s.inFlow && (ch == '?' || ch == ':'))))

/-! ### The row -/

/-- Pass blanks, comments and breaks. Behind a break a key may begin, unless brackets are open. -/
def passBlank : Nat → Scan → Scan
  | 0, s => s
  | fuel + 1, s =>
    let c := s.cursor.passSpaces
    let c := if c.peek = '#' then c.pass (!endsLine ·) else c
    if isBreak c.peek then
      passBlank fuel { s with cursor := c.lineBreak.2, keyAllowed := s.keyAllowed || !s.inFlow }
    else { s with cursor := c }

/-- Read one token, given that the text goes on. -/
def fetchToken (s : Scan) : Except Fault Scan :=
  let c := s.cursor
  let after := c.ahead 1
  let text (double : Bool) (c : Cursor) : Except Fault (Token × Cursor) :=
    (quotedScalar double c).map fun p => (.scalar (.ofPoints p.1) false, p.2)
  if c.peek = '%' ∧ c.column = 0 then s.fetchDirective
  else if c.column = 0 ∧ c.atTriple '-' then s.fetchSeparator .documentStart
  else if c.column = 0 ∧ c.atTriple '.' then s.fetchSeparator .documentEnd
  else match c.peek with
    | '[' => s.fetchOpening .flowSequenceStart
    | '\x7b' => s.fetchOpening .flowMappingStart
    | ']' => s.fetchClosing .flowSequenceEnd
    | '\x7d' => s.fetchClosing .flowMappingEnd
    | ',' => s.fetchFlowEntry
    | '*' => s.fetchNode fun c => (anchorName c).map fun p => (.reference p.1, p.2)
    | '&' => s.fetchNode fun c => (anchorName c).map fun p => (.anchor p.1, p.2)
    | '!' => s.fetchNode fun c => (writtenTag c).map fun p => (.tag p.1, p.2)
    | '\'' => s.fetchNode (text false)
    | '"' => s.fetchNode (text true)
    | ch =>
      if ch = '-' ∧ isGap after then s.fetchBlockEntry
      else if ch = '?' ∧ (s.inFlow ∨ isGap after) then s.fetchKey
      else if ch = ':' ∧ (s.inFlow ∨ isGap after) then s.fetchValue
      else if ch = '|' ∧ !s.inFlow then s.fetchBlock false
      else if ch = '>' ∧ !s.inFlow then s.fetchBlock true
      else if s.startsPlain then s.fetchPlain
      else .error .unreadable

/-- A candidate in the finished row: a key, which may start a mapping, or nothing. -/
def resolve (keys : List (Nat × Bool)) : Entry → List Token
  | .token t => [t]
  | .candidate number =>
    match keys.find? fun k => k.1 == number with
    | some (_, true) => [.blockMappingStart, .key]
    | some (_, false) => [.key]
    | none => []

/-- The finished row. -/
def tokens (s : Scan) : List Token := s.row.reverse.flatMap (resolve s.keys)

/-- The first candidate in the row that a colon may still reach. -/
def firstPending? (s : Scan) : Option Nat :=
  ((s.candidates.filter fun k => !s.isStale k).map Candidate.number).min?

/-- Whether an entry of the row is a candidate of the number. -/
def isCandidate (number : Nat) : Entry → Bool
  | .candidate n => n == number
  | .token _ => false

/-- The row that ends with a fault. What stands behind a candidate that was pending is not in it, because
nothing from there on can be taken before it is known whether the candidate is a key. -/
def broken (s : Scan) (pending : Option Nat) (fault : Fault) : List Token :=
  let row := match pending with
    | none => s.row
    | some number => (s.row.dropWhile fun entry => !isCandidate number entry).drop 1
  ({ s with row := row }.emit (.bad fault)).tokens

/-- Before the next token: blanks are passed, and block collections that end here are closed. -/
def advance (s : Scan) : Except Fault Scan := do
  let s ← (passBlank (s.cursor.rest.length + 1) s).dropStale
  .ok (s.unwind s.cursor.column)

/-- Read tokens until the text ends. A fault ends the row too. -/
def run : Nat → Scan → List Token
  | 0, s => s.tokens
  | fuel + 1, s =>
    match s.advance with
    | .error fault => s.broken s.firstPending? fault
    | .ok next =>
      if next.cursor.rest.isEmpty then
        match next.closeAll with
        | .error fault => s.broken s.firstPending? fault
        | .ok next => next.tokens
      else match next.fetchToken with
        | .error fault => s.broken s.firstPending? fault
        | .ok next => run fuel next

end Scan

/-- The tokens of a text. A byte order mark in front of it is passed over. -/
def tokensOf (text : List Char) : List Token :=
  let s := Scan.start text
  let s := if s.cursor.peek = '\uFEFF' then s.skip 1 else s
  Scan.run (text.length + 1) s

end DeviceRelay.Yaml
