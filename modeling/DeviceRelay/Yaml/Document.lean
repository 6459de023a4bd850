import DeviceRelay.Yaml.Implicit
import DeviceRelay.Yaml.Node
import DeviceRelay.Yaml.Token

/-!
# YAML documents

A document is one node: a scalar, a sequence or a mapping, each with a tag if one is written. An
anchor names the node behind it, from where it begins, and an alias leads to the node of that name.

    stream    : document
    node      : alias | anchor? tag? (scalar | collection | nothing)
    block     : indented items behind dashes, or keys and values
    flow      : items or pairs between brackets, with commas

Reading goes down by an explicit number of steps, of which a row of tokens needs no more than a few per
token.
-/

namespace DeviceRelay.Yaml

/-- A document with its first node. -/
structure Document where
  graph : Graph
  root : Nat

namespace Document

/-- The handles that need no directive. -/
def defaultHandles : List (String × String) := [("!", "!"), ("!!", Kind.tagStart)]

/-- What is known while reading: the beginnings that handles stand for, the nodes of anchors, and all
nodes so far. -/
structure Draft where
  handles : List (String × String)
  anchors : List (String × Nat)
  graph : Graph

namespace Draft

/-- One node more, and its number. -/
def add (d : Draft) (node : Node) : Nat × Draft :=
  let (n, graph) := d.graph.add node
  (n, { d with graph := graph })

/-- The node that is not written. -/
def addEmpty (d : Draft) : Nat × Draft := d.add .empty

/-- One node more, under the name of its anchor. -/
def addNamed (d : Draft) (anchor : Option String) (node : Node) : Nat × Draft :=
  let (n, d) := d.add node
  (n, { d with anchors := (anchor.map (·, n)).toList ++ d.anchors })

/-- The content of a node, once it is known. -/
def setContent (d : Draft) (n : Nat) (content : Content) : Draft :=
  { d with graph := d.graph.setContent n content }

/-- The node of an anchor. -/
def anchor? (d : Draft) (name : String) : Option Nat :=
  (d.anchors.find? fun entry => entry.1 = name).map (·.2)

end Draft

/-- What has been read, with what is left of the row and the draft. -/
abbrev Partly (α : Type) := α × List Token × Draft

/-- The fault of a row that does not go on as it should. -/
def refuse {α : Type} : List Token → Except Fault α
  | .bad fault :: _ => .error fault
  | _ => .error .unreadable

/-! ### Properties -/

/-- The tag that a written tag means. -/
def fullTag (d : Draft) (t : WrittenTag) : Except Fault String :=
  match t.handle with
  | none => .ok t.suffix
  | some handle =>
    match d.handles.find? fun h => h.1 = handle with
    | some (_, start) => .ok (start ++ t.suffix)
    | none => .error .unreadable

/-- The properties in front of a node, anchor and tag in either order, and what follows them. A tag is
understood only once it is known whether an anchor follows it. -/
def properties (ts : List Token) (d : Draft) :
    Except Fault (Option String × Option String × List Token) :=
  match ts with
  | .anchor a :: .tag t :: rest => (fullTag d t).map fun tag => (some a, some tag, rest)
  | .anchor a :: rest => .ok (some a, none, rest)
  | .tag t :: .anchor a :: rest => (fullTag d t).map fun tag => (some a, some tag, rest)
  | .tag _ :: .bad fault :: _ => .error fault
  | .tag t :: rest => (fullTag d t).map fun tag => (none, some tag, rest)
  | _ => .ok (none, none, ts)

/-- The kind of a scalar. The lone exclamation mark has the text looked at, as if it were plain. -/
def scalarKind (tag : Option String) (plain : Bool) (text : LooseText) : Kind :=
  match tag with
  | none => if plain then kindOf text.repaired else .text
  | some "!" => kindOf text.repaired
  | some t => Kind.ofTag t

/-- The kind of a collection. The lone exclamation mark is no tag. -/
def collectionKind (tag : Option String) (own : Kind) : Kind :=
  match tag with
  | none | some "!" => own
  | some t => Kind.ofTag t

/-- Where a node stands: in brackets, among block collections, or behind a key, where a sequence need
not be indented. -/
inductive Place where
  | flow
  | block
  | value
  deriving DecidableEq

/-- Whether the next token is none of the given ones, so that a node is there. -/
def hasNode (absent : List Token) (ts : List Token) : Bool :=
  match ts with
  | [] => true
  | t :: _ => !absent.contains t

/-! ### Nodes -/

mutual

/-- A node. -/
def read : Nat → Place → List Token → Draft → Except Fault (Partly Nat)
  | 0, _, _, _ => .error .unreadable
  | fuel + 1, place, ts, d =>
    match ts with
    | .reference name :: rest =>
      match d.anchor? name with
      | some n => .ok (n, rest, d)
      | none => .error .unreadable
    | _ => do
      let (anchor, tag, rest) ← properties ts d
      if anchor.any fun name => (d.anchor? name).isSome then refuse rest
      else readContent fuel place anchor tag rest d

/-- What a node holds, behind its properties. -/
def readContent : Nat → Place → Option String → Option String → List Token → Draft →
    Except Fault (Partly Nat)
  | 0, _, _, _, _, _ => .error .unreadable
  | fuel + 1, place, anchor, tag, ts, d =>
    let sequence (read : Draft → Except Fault (Partly (List Nat))) : Except Fault (Partly Nat) := do
      let (n, d) := d.addNamed anchor ⟨collectionKind tag .sequence, .sequence []⟩
      let (items, rest, d) ← read d
      .ok (n, rest, d.setContent n (.sequence items))
    let mapping (read : Draft → Except Fault (Partly (List (Nat × Nat)))) :
        Except Fault (Partly Nat) := do
      let (n, d) := d.addNamed anchor ⟨collectionKind tag .mapping, .mapping []⟩
      let (entries, rest, d) ← read d
      .ok (n, rest, d.setContent n (.mapping entries))
    let scalar (text : LooseText) (plain : Bool) (rest : List Token) : Except Fault (Partly Nat) :=
      let (n, d) := d.addNamed anchor ⟨scalarKind tag plain text, .scalar text⟩
      .ok (n, rest, d)
    let missing : Except Fault (Partly Nat) :=
      if anchor.isSome || tag.isSome then scalar "" true ts else refuse ts
    match ts with
    | .bad fault :: _ => .error fault
    | .scalar text plain :: rest => scalar text plain rest
    | .flowSequenceStart :: rest => sequence (flowItems fuel true rest)
    | .flowMappingStart :: rest => mapping (flowEntries fuel true rest)
    | .blockEntry :: _ => if place = .value then sequence (bareItems fuel ts) else missing
    | .blockSequenceStart :: rest =>
      if place = .flow then refuse ts else sequence (blockItems fuel rest)
    | .blockMappingStart :: rest =>
      if place = .flow then refuse ts else mapping (blockEntries fuel rest)
    | _ => missing

/-- A node, or the empty one where one of the given tokens stands in its place. -/
def readUnless (absent : List Token) : Nat → Place → List Token → Draft → Except Fault (Partly Nat)
  | 0, _, _, _ => .error .unreadable
  | fuel + 1, place, ts, d =>
    if hasNode absent ts then read fuel place ts d
    else
      let (n, d) := d.addEmpty
      .ok (n, ts, d)

/-- The items of an indented sequence. -/
def blockItems : Nat → List Token → Draft → Except Fault (Partly (List Nat))
  | 0, _, _ => .error .unreadable
  | fuel + 1, ts, d =>
    match ts with
    | .blockEntry :: rest => do
      let (item, rest, d) ← readUnless [.blockEntry, .blockEnd] fuel .block rest d
      let (items, rest, d) ← blockItems fuel rest d
      .ok (item :: items, rest, d)
    | .blockEnd :: rest => .ok ([], rest, d)
    | _ => refuse ts

/-- The items of a sequence that is not indented further than its key. -/
def bareItems : Nat → List Token → Draft → Except Fault (Partly (List Nat))
  | 0, _, _ => .error .unreadable
  | fuel + 1, ts, d =>
    match ts with
    | .blockEntry :: rest => do
      let (item, rest, d) ← readUnless [.blockEntry, .key, .value, .blockEnd] fuel .block rest d
      let (items, rest, d) ← bareItems fuel rest d
      .ok (item :: items, rest, d)
    | _ => .ok ([], ts, d)

/-- The value behind a key, or the empty node; `absent` are the tokens that follow a missing value. -/
def readValue (absent : List Token) : Nat → Place → List Token → Draft → Except Fault (Partly Nat)
  | 0, _, _, _ => .error .unreadable
  | fuel + 1, place, ts, d =>
    match ts with
    | .value :: rest => readUnless absent fuel place rest d
    | _ =>
      let (n, d) := d.addEmpty
      .ok (n, ts, d)

/-- The entries of an indented mapping. -/
def blockEntries : Nat → List Token → Draft → Except Fault (Partly (List (Nat × Nat)))
  | 0, _, _ => .error .unreadable
  | fuel + 1, ts, d =>
    match ts with
    | .key :: rest => do
      let (k, rest, d) ← readUnless [.key, .value, .blockEnd] fuel .value rest d
      let (v, rest, d) ← readValue [.key, .value, .blockEnd] fuel .value rest d
      let (entries, rest, d) ← blockEntries fuel rest d
      .ok ((k, v) :: entries, rest, d)
    | .blockEnd :: rest => .ok ([], rest, d)
    | _ => refuse ts

/-- The items between square brackets; `first` says that no comma is due. -/
def flowItems : Nat → Bool → List Token → Draft → Except Fault (Partly (List Nat))
  | 0, _, _, _ => .error .unreadable
  | fuel + 1, first, ts, d =>
    match first, ts with
    | _, .flowSequenceEnd :: rest => .ok ([], rest, d)
    | false, .flowEntry :: .flowSequenceEnd :: rest => .ok ([], rest, d)
    | false, .flowEntry :: rest => flowItem fuel rest d
    | true, ts => flowItem fuel ts d
    | false, ts => refuse ts

/-- An item between square brackets, which may be a pair, and those that follow. -/
def flowItem : Nat → List Token → Draft → Except Fault (Partly (List Nat))
  | 0, _, _ => .error .unreadable
  | fuel + 1, ts, d =>
    match ts with
    | .key :: rest => do
      let (pair, d) := d.add ⟨.mapping, .mapping []⟩
      let (k, rest, d) ← readUnless [.value, .flowEntry, .flowSequenceEnd] fuel .flow rest d
      let (v, rest, d) ← readValue [.flowEntry, .flowSequenceEnd] fuel .flow rest d
      let (items, rest, d) ← flowItems fuel false rest (d.setContent pair (.mapping [(k, v)]))
      .ok (pair :: items, rest, d)
    | _ => do
      let (item, rest, d) ← read fuel .flow ts d
      let (items, rest, d) ← flowItems fuel false rest d
      .ok (item :: items, rest, d)

/-- The entries between braces; `first` says that no comma is due. -/
def flowEntries : Nat → Bool → List Token → Draft → Except Fault (Partly (List (Nat × Nat)))
  | 0, _, _, _ => .error .unreadable
  | fuel + 1, first, ts, d =>
    match first, ts with
    | _, .flowMappingEnd :: rest => .ok ([], rest, d)
    | false, .flowEntry :: .flowMappingEnd :: rest => .ok ([], rest, d)
    | false, .flowEntry :: rest => flowPair fuel rest d
    | true, ts => flowPair fuel ts d
    | false, ts => refuse ts

/-- An entry between braces, which may be a key alone, and those that follow. -/
def flowPair : Nat → List Token → Draft → Except Fault (Partly (List (Nat × Nat)))
  | 0, _, _ => .error .unreadable
  | fuel + 1, ts, d =>
    match ts with
    | .key :: rest => do
      let (k, rest, d) ← readUnless [.value, .flowEntry, .flowMappingEnd] fuel .flow rest d
      let (v, rest, d) ← readValue [.flowEntry, .flowMappingEnd] fuel .flow rest d
      let (entries, rest, d) ← flowEntries fuel false rest d
      .ok ((k, v) :: entries, rest, d)
    | _ => do
      let (k, rest, d) ← read fuel .flow ts d
      let (v, d) := d.addEmpty
      let (entries, rest, d) ← flowEntries fuel false rest d
      .ok ((k, v) :: entries, rest, d)

end

/-! ### Documents -/

/-- The handles that directives give, and what follows the directives. A version is given once and is
1; a handle is given once. -/
def directives : List Token → Bool → List (String × String) →
    Except Fault (List (String × String) × List Token)
  | .directive .other :: rest, versioned, handles => directives rest versioned handles
  | .directive (.version major) :: rest, versioned, handles =>
    if versioned || major != 1 then .error .unreadable else directives rest true handles
  | .directive (.handle name start) :: rest, versioned, handles =>
    if handles.any fun h => h.1 = name then .error .unreadable
    else directives rest versioned (handles ++ [(name, start)])
  | ts, _, handles => .ok (handles ++ defaultHandles, ts)

/-- What may stand where a document begins or ends. -/
def atBoundary : List Token → Bool
  | [] | .directive _ :: _ | .documentStart :: _ | .documentEnd :: _ => true
  | _ => false

/-- Nothing but the end of the text may follow a document, marks of its end apart. Directives that
follow are read, as those of a second document, before that document is refused. -/
def finish (document : Document) (ts : List Token) : Except Fault (Option Document) :=
  match ts.dropWhile (· = .documentEnd) with
  | [] => .ok (some document)
  | ts => do
    let (_, rest) ← directives ts false []
    refuse rest

/-- The steps that a row of tokens needs at most. -/
def stepsFor (ts : List Token) : Nat := 6 * ts.length + 12

/-- A document behind its start. -/
def readFrom (handles : List (String × String)) (ts : List Token) :
    Except Fault (Option Document) := do
  let (root, rest, d) ← read (stepsFor ts) .block ts ⟨handles, [], .empty⟩
  finish ⟨d.graph, root⟩ rest

/-- A document of which nothing is written. -/
def unwritten : Document := ⟨⟨#[.empty]⟩, 0⟩

/-- The document of a row of tokens, if there is one. -/
def ofTokens? (ts : List Token) : Except Fault (Option Document) :=
  match ts with
  | [] => .ok none
  | .directive _ :: _ | .documentStart :: _ => do
    let (handles, rest) ← directives ts false []
    match rest with
    | .documentStart :: rest =>
      if atBoundary rest then finish unwritten rest else readFrom handles rest
    | _ => refuse rest
  | _ => readFrom defaultHandles ts

end Document

end DeviceRelay.Yaml
