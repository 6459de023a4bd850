import DeviceRelay.Yaml.Document
import DeviceRelay.Yaml.Literal
import DeviceRelay.Yaml.Merge

/-!
# From YAML nodes to data

Each node becomes one object. A scalar becomes one as soon as it is met; a collection is empty at first
and waits in a row until those that were met before it are filled, so that faults come in this order,
and so that a collection may lie inside itself. At the end the objects are unfolded into data, each
collection being cut off where it would lie inside itself.

    Document ──run──▶ objects ──unfold──▶ Data
-/

namespace DeviceRelay.Yaml

/-- What a node becomes. Collections hold the numbers of the nodes in them. -/
inductive Object where
  | plain (value : Data)
  | list (items : List Nat)
  | pairs (entries : List (Nat × Nat))
  | set (members : List Data)
  | dict (entries : List (Data × Nat))

/-- How far a construction has come. -/
structure Construction where
  graph : Graph
  /-- The objects so far, by the number of their node. -/
  objects : Array (Option Object)
  /-- The collections that wait to be filled, last first. -/
  waiting : List Nat

namespace Construction

/-- Nothing is constructed. -/
def start (g : Graph) : Construction := ⟨g, Array.replicate g.nodes.size none, []⟩

/-- The object of a node. -/
def object? (c : Construction) (n : Nat) : Option Object := (c.objects[n]?).join

/-- Give a node its object. -/
def put (c : Construction) (n : Nat) (o : Object) : Construction :=
  { c with objects := c.objects.setIfInBounds n (some o) }

/-- A collection with nothing in it. -/
def unfilled? : Kind → Option Object
  | .sequence => some (.list [])
  | .mapping => some (.dict [])
  | .set => some (.set [])
  | .pairs => some (.pairs [])
  | _ => none

/-- The text of a node that stands for a scalar: its own, or for a mapping that of its default value. -/
def textOf? (g : Graph) : Nat → Nat → Option LooseText
  | 0, _ => none
  | fuel + 1, n =>
    match g.content n with
    | .scalar text => some text
    | .sequence _ => none
    | .mapping entries =>
      match entries.find? fun e => g.kind e.1 = .default with
      | some (_, value) => textOf? g fuel value
      | none => none

/-- The data of a node that stands for a scalar. The text of a date has to be its own. -/
def scalarOf (g : Graph) (n : Nat) : Except Fault Data :=
  match textOf? g (g.nodes.size + 1) n with
  | none => .error .unreadable
  | some text =>
    match g.kind n, g.content n with
    | .timestamp, .mapping _ =>
      .error (.foreign "TypeError" "expected string or bytes-like object, got 'list'")
    | kind, _ => (literal? kind text).getD (.error .unreadable)

/-- A node is met: it has an object from now on. -/
def meet (c : Construction) (n : Nat) : Except Fault Construction :=
  match c.object? n, unfilled? (c.graph.kind n) with
  | some _, _ => .ok c
  | none, some o => .ok { c.put n o with waiting := n :: c.waiting }
  | none, none => (scalarOf c.graph n).map fun d => c.put n (.plain d)

/-- Nodes are met, first to last. -/
def meetAll (c : Construction) : List Nat → Except Fault Construction
  | [] => .ok c
  | n :: rest => do meetAll (← c.meet n) rest

/-- A node is met as a key, which is no collection. -/
def meetKey (c : Construction) (n : Nat) : Except Fault (Data × Construction) := do
  let c ← c.meet n
  match c.object? n with
  | some (.plain d) => .ok (d, c)
  | _ => .error .unreadable

/-- The entries of a mapping are met, each key before its value. -/
def meetEntries (c : Construction) : List (Nat × Nat) →
    Except Fault (List (Data × Nat) × Construction)
  | [] => .ok ([], c)
  | (key, value) :: rest => do
    let (k, c) ← c.meetKey key
    let (entries, c) ← (← c.meet value).meetEntries rest
    .ok ((k, value) :: entries, c)

/-- The entries of a mapping and of those that it merges; of two for one key the last counts. -/
def fillMapping (c : Construction) (n : Nat) : Except Fault (List (Data × Nat) × Construction) := do
  match c.graph.content n with
  | .mapping _ =>
    let graph ← c.graph.merge n
    let (entries, c) ← { c with graph := graph }.meetEntries (graph.entries n)
    .ok (Data.lastForKeys entries, c)
  | _ => .error .unreadable

/-- The items of a sequence are met. -/
def fillSequence (c : Construction) (n : Nat) : Except Fault (List Nat × Construction) := do
  match c.graph.content n with
  | .sequence items => .ok (items, ← c.meetAll items)
  | _ => .error .unreadable

/-- The pairs of a sequence are met, each the only entry of a mapping. -/
def meetPairs (c : Construction) : List Nat → Except Fault (List (Nat × Nat) × Construction)
  | [] => .ok ([], c)
  | n :: rest =>
    match c.graph.content n with
    | .mapping [(key, value)] => do
      let (pairs, c) ← (← c.meetAll [key, value]).meetPairs rest
      .ok ((key, value) :: pairs, c)
    | _ => .error .unreadable

/-- The pairs of a sequence. -/
def fillPairs (c : Construction) (n : Nat) : Except Fault (List (Nat × Nat) × Construction) :=
  match c.graph.content n with
  | .sequence items => c.meetPairs items
  | _ => .error .unreadable

/-- Fill a collection. -/
def fill (c : Construction) (n : Nat) : Except Fault Construction := do
  match c.graph.kind n with
  | .sequence =>
    let (items, c) ← c.fillSequence n
    .ok (c.put n (.list items))
  | .pairs =>
    let (pairs, c) ← c.fillPairs n
    .ok (c.put n (.pairs pairs))
  | .set =>
    let (entries, c) ← c.fillMapping n
    .ok (c.put n (.set (entries.map (·.1))))
  | _ =>
    let (entries, c) ← c.fillMapping n
    .ok (c.put n (.dict entries))

/-- Fill collections one after another. -/
def fillAll (c : Construction) : List Nat → Except Fault Construction
  | [] => .ok c
  | n :: rest => do fillAll (← c.fill n) rest

/-- Fill all collections that wait, then those that came to wait meanwhile, and so on. No collection waits
twice, so that there are no more rounds than nodes. -/
def run : Nat → Construction → Except Fault Construction
  | 0, c => .ok c
  | fuel + 1, c =>
    if c.waiting.isEmpty then .ok c
    else do run fuel (← { c with waiting := [] }.fillAll c.waiting.reverse)

/-! ### Unfolding -/

/-- The data of a node; `around` are the collections around it. -/
def unfold (c : Construction) : Nat → List Nat → Nat → Data
  | 0, _, _ => .null
  | fuel + 1, around, n =>
    if around.contains n then .null
    else
      let inside := unfold c fuel (n :: around)
      match c.object? n with
      | some (.plain d) => d
      | some (.list items) => .list (items.map inside)
      | some (.pairs entries) => .list (entries.map fun e => .tuple [inside e.1, inside e.2])
      | some (.set members) => .set members
      | some (.dict entries) => .dict (entries.map fun e => (e.1, inside e.2))
      | none => .null

end Construction

/-- The data of a document. -/
def Document.data (d : Document) : Except Fault Data := do
  let c ← (Construction.start d.graph).meet d.root
  let steps := d.graph.nodes.size + 1
  .ok ((← c.run steps).unfold steps [] d.root)

/-! ### Texts -/

/-- The characters that a YAML text may hold. -/
def isReadable (c : Char) : Bool :=
  let n := c.toNat
  n == 0x09 || n == 0x0A || n == 0x0D || (0x20 ≤ n && n ≤ 0x7E) || n == 0x85 ||
    (0xA0 ≤ n && n ≤ 0xD7FF) || (0xE000 ≤ n && n ≤ 0xFFFD) || 0x10000 ≤ n

/-- The text with every end of line as a line feed. -/
def withLineFeeds : List Char → List Char
  | [] => []
  | '\r' :: '\n' :: rest => '\n' :: withLineFeeds rest
  | '\r' :: rest => '\n' :: withLineFeeds rest
  | c :: rest => c :: withLineFeeds rest

/-- The data of a text; an empty text is nothing. -/
def read (text : List Char) : Except Fault Data :=
  let text := withLineFeeds text
  if !text.all isReadable then .error .unreadable
  else do
    match ← Document.ofTokens? (tokensOf text) with
    | none => .ok .null
    | some document => document.data

end DeviceRelay.Yaml
