import DeviceRelay.Text.Loose
import DeviceRelay.Yaml.Kind

/-!
# YAML nodes

A document is a graph of nodes. An alias leads to the node of its anchor, so a node may be reached on several
ways, and even from inside itself. Nodes are numbered, and a collection holds the numbers of its nodes.
-/

namespace DeviceRelay.Yaml

/-- What a node holds. -/
inductive Content where
  | scalar (text : LooseText)
  | sequence (items : List Nat)
  | mapping (entries : List (Nat × Nat))
  deriving Repr, DecidableEq

/-- How many numbers a node holds. -/
def Content.size : Content → Nat
  | .scalar _ => 0
  | .sequence items => items.length
  | .mapping entries => entries.length

/-- A node. -/
structure Node where
  kind : Kind
  content : Content
  deriving Repr, DecidableEq

/-- The node that is not written. -/
def Node.empty : Node := ⟨.null, .scalar (.text "")⟩

/-- The nodes of a document by number. -/
structure Graph where
  nodes : Array Node

namespace Graph

/-- No nodes. -/
def empty : Graph := ⟨#[]⟩

/-- The node of a number. -/
def node (g : Graph) (n : Nat) : Node := g.nodes.getD n .empty

/-- The kind of a node. -/
def kind (g : Graph) (n : Nat) : Kind := (g.node n).kind

/-- What a node holds. -/
def content (g : Graph) (n : Nat) : Content := (g.node n).content

/-- The entries of a mapping. -/
def entries (g : Graph) (n : Nat) : List (Nat × Nat) :=
  match g.content n with
  | .mapping entries => entries
  | _ => []

/-- One node more, and its number. -/
def add (g : Graph) (node : Node) : Nat × Graph := (g.nodes.size, ⟨g.nodes.push node⟩)

/-- Another content for a node. -/
def setContent (g : Graph) (n : Nat) (content : Content) : Graph :=
  ⟨g.nodes.modify n fun node => { node with content := content }⟩

/-- Another kind for a node. -/
def setKind (g : Graph) (n : Nat) (kind : Kind) : Graph :=
  ⟨g.nodes.modify n fun node => { node with kind := kind }⟩

/-- The number of nodes and of places in them. -/
def size (g : Graph) : Nat :=
  g.nodes.foldl (fun total node => total + 1 + node.content.size) 0

end Graph

end DeviceRelay.Yaml
