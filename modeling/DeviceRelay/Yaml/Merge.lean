import DeviceRelay.Yaml.Cursor
import DeviceRelay.Yaml.Node

/-!
# Merged mappings

A mapping may take in the entries of others: the value of a merge key is a mapping, or a sequence of
mappings. The entries that come from there stand in front of those of its own, and of several mappings in a
sequence the last one's stand first; so its own win over merged ones, and the first of a sequence over the
others. Where a mapping takes in itself, it takes in what is left of it without that merge key.

In a mapping whose entries are read the key of the default value is a text like others.
-/

namespace DeviceRelay.Yaml.Graph

/-- The first entry whose key is a merge key, and the entries without it. -/
def cutMerge? (g : Graph) : List (Nat × Nat) → Option (Nat × List (Nat × Nat))
  | [] => none
  | (key, value) :: rest =>
    if g.kind key = .merge then some (value, rest)
    else (cutMerge? g rest).map fun found => (found.1, (key, value) :: found.2)

/-- The keys of default values as texts. -/
def settleDefaults (g : Graph) (entries : List (Nat × Nat)) : Graph :=
  entries.foldl (fun g entry => if g.kind entry.1 = .default then g.setKind entry.1 .text else g) g

mutual

/-- Merge into a mapping; `merged` are the entries that have come so far. -/
def mergeFrom : Nat → Nat → List (Nat × Nat) → Graph → Except Fault Graph
  | 0, _, _, _ => .error .unreadable
  | fuel + 1, n, merged, g =>
    match g.cutMerge? (g.entries n) with
    | none => .ok ((g.settleDefaults (g.entries n)).setContent n (.mapping (merged ++ g.entries n)))
    | some (source, rest) =>
      let g := g.setContent n (.mapping rest)
      match g.content source with
      | .scalar _ => .error .unreadable
      | .mapping _ => do
        let g ← mergeFrom fuel source [] g
        mergeFrom fuel n (merged ++ g.entries source) g
      | .sequence items => do
        let (sources, g) ← mergeAll fuel items g
        mergeFrom fuel n (merged ++ sources.reverse.flatten) g

/-- Merge into each mapping of a sequence; the entries of each, in order. -/
def mergeAll : Nat → List Nat → Graph → Except Fault (List (List (Nat × Nat)) × Graph)
  | 0, _, _ => .error .unreadable
  | _, [], g => .ok ([], g)
  | fuel + 1, item :: rest, g =>
    match g.content item with
    | .mapping _ => do
      let g ← mergeFrom fuel item [] g
      let entries := g.entries item
      let (others, g) ← mergeAll fuel rest g
      .ok (entries :: others, g)
    | _ => .error .unreadable

end

/-- The graph after a mapping has taken in all that it merges. -/
def merge (g : Graph) (n : Nat) : Except Fault Graph :=
  mergeFrom ((g.size + 1) * (g.size + 1)) n [] g

end DeviceRelay.Yaml.Graph
