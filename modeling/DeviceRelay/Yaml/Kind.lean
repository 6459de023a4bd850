/-!
# Kinds of YAML nodes

The tag of a node says what it stands for. This library knows the kinds that plain data needs; a node with any
other tag stands for nothing that it could read.
-/

namespace DeviceRelay.Yaml

/-- What a node stands for. -/
inductive Kind where
  | null
  | bool
  | int
  | float
  | timestamp
  | binary
  | text
  | sequence
  | mapping
  /-- The keys of a mapping, without values. -/
  | set
  /-- Pairs in an order; each is a mapping of one key. -/
  | pairs
  /-- The key whose value is merged into a mapping. -/
  | merge
  /-- The key of a mapping's default value. -/
  | default
  /-- None of these. -/
  | unknown
  deriving Repr, DecidableEq

namespace Kind

/-- What the tags of the known kinds begin with. -/
def tagStart : String := "tag:yaml.org,2002:"

/-- The known kinds by the ends of their tags. -/
def named : List (String × Kind) :=
  [("null", .null), ("bool", .bool), ("int", .int), ("float", .float), ("timestamp", .timestamp),
    ("binary", .binary), ("str", .text), ("seq", .sequence), ("map", .mapping), ("set", .set),
    ("omap", .pairs), ("pairs", .pairs), ("merge", .merge), ("value", .default)]

/-- The kind that a tag names. -/
def ofTag (tag : String) : Kind :=
  ((named.find? fun entry => tagStart ++ entry.1 = tag).map (·.2)).getD .unknown

end Kind

end DeviceRelay.Yaml
