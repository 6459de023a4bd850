import DeviceRelay.Value

/-!
# Values and what lies inside them

Lists, tuples and dictionaries hold values, which may hold values in turn. The functions on values are mutual
with those on items and entries; the lemmas here say once that the latter are maps, so that one induction on the
value is enough.

* `Value.induction` — what holds of a value whenever it holds of the values directly inside, holds of all.
* `Value.Every` — a property of a value and of all values inside, at any depth.
* `Value.every_iff_inside` — which is a property of each of its parts.
* `Value.levels` — how deep values lie inside one another.
-/

namespace DeviceRelay.Value

/-! ### Induction -/

/-- Induction on a value: a value with values inside has the property if all of these have it. -/
@[elab_as_elim]
theorem induction {motive : Value → Prop} (null : motive .null) (bool : ∀ b, motive (.bool b))
    (int : ∀ n, motive (.int n)) (float : ∀ x, motive (.float x)) (text : ∀ s, motive (.text s))
    (bytes : ∀ b, motive (.bytes b)) (buffer : ∀ b, motive (.buffer b))
    (list : ∀ items, (∀ v ∈ items, motive v) → motive (.list items))
    (tuple : ∀ items, (∀ v ∈ items, motive v) → motive (.tuple items))
    (dict : ∀ entries, (∀ entry ∈ entries, motive entry.2) → motive (.dict entries))
    (instant : ∀ t, motive (.instant t)) (object : motive .object) (v : Value) : motive v :=
  @Value.rec motive (fun items => ∀ v ∈ items, motive v) (fun entries => ∀ entry ∈ entries, motive entry.2)
    (fun entry => motive entry.2)
    null bool int float text bytes buffer list tuple dict instant object
    (List.forall_mem_nil _) (fun _ _ hv hrest => List.forall_mem_cons.mpr ⟨hv, hrest⟩)
    (List.forall_mem_nil _) (fun _ _ hv hrest => List.forall_mem_cons.mpr ⟨hv, hrest⟩)
    (fun _ _ hv => hv) v

/-! ### Maps -/

theorem hexedItems_eq_map (items : List Value) : hexedItems items = items.map hexed := by
  induction items with
  | nil => rfl
  | cons v rest ih => rw [hexedItems, ih, List.map_cons]

theorem hexedEntries_eq_map (entries : List (String × Value)) :
    hexedEntries entries = entries.map fun entry => (entry.1, entry.2.hexed) := by
  induction entries with
  | nil => rfl
  | cons entry rest ih => rw [hexedEntries, ih, List.map_cons]

theorem ofItems_eq_map (items : List Json) : ofItems items = items.map ofJson := by
  induction items with
  | nil => rfl
  | cons item rest ih => rw [ofItems, ih, List.map_cons]

theorem ofMembers_eq_map (members : List (String × Json)) :
    ofMembers members = members.map fun member => (member.1, ofJson member.2) := by
  induction members with
  | nil => rfl
  | cons member rest ih => rw [ofMembers, ih, List.map_cons]

/-! ### Properties at any depth -/

mutual

/-- The property holds of the value and of every value inside. -/
def Every (p : Value → Prop) : Value → Prop
  | .list items => p (.list items) ∧ EveryItem p items
  | .tuple items => p (.tuple items) ∧ EveryItem p items
  | .dict entries => p (.dict entries) ∧ EveryEntry p entries
  | v => p v

/-- The property holds of every item and of every value inside. -/
def EveryItem (p : Value → Prop) : List Value → Prop
  | [] => True
  | v :: rest => Every p v ∧ EveryItem p rest

/-- The property holds of the value of every entry and of every value inside. -/
def EveryEntry (p : Value → Prop) : List (String × Value) → Prop
  | [] => True
  | (_, v) :: rest => Every p v ∧ EveryEntry p rest

end

section Every

variable {p q : Value → Prop}

theorem everyItem_iff {items : List Value} : EveryItem p items ↔ ∀ v ∈ items, v.Every p := by
  induction items with
  | nil => simp [EveryItem]
  | cons v rest ih => simp [EveryItem, ih]

theorem everyEntry_iff {entries : List (String × Value)} :
    EveryEntry p entries ↔ ∀ entry ∈ entries, entry.2.Every p := by
  induction entries with
  | nil => simp [EveryEntry]
  | cons entry rest ih => simp [EveryEntry, ih]

theorem every_list {items : List Value} :
    (list items).Every p ↔ p (.list items) ∧ ∀ v ∈ items, v.Every p := by
  rw [Every, everyItem_iff]

theorem every_tuple {items : List Value} :
    (tuple items).Every p ↔ p (.tuple items) ∧ ∀ v ∈ items, v.Every p := by
  rw [Every, everyItem_iff]

theorem every_dict {entries : List (String × Value)} :
    (dict entries).Every p ↔ p (.dict entries) ∧ ∀ entry ∈ entries, entry.2.Every p := by
  rw [Every, everyEntry_iff]

theorem Every.imp (h : ∀ v, p v → q v) {v : Value} (hv : v.Every p) : v.Every q := by
  induction v using Value.induction with
  | list items ih =>
    rw [every_list] at hv ⊢
    exact ⟨h _ hv.1, fun v hmem => ih v hmem (hv.2 v hmem)⟩
  | tuple items ih =>
    rw [every_tuple] at hv ⊢
    exact ⟨h _ hv.1, fun v hmem => ih v hmem (hv.2 v hmem)⟩
  | dict entries ih =>
    rw [every_dict] at hv ⊢
    exact ⟨h _ hv.1, fun entry hmem => ih entry hmem (hv.2 entry hmem)⟩
  | _ => exact h _ hv

/-! ### Parts -/

/-- A part of a value is the value itself, or a part of a value directly inside. -/
inductive Inside (part : Value) : Value → Prop
  | self : Inside part part
  | item {items : List Value} {v : Value} (hmem : v ∈ items) (h : Inside part v) : Inside part (.list items)
  | component {items : List Value} {v : Value} (hmem : v ∈ items) (h : Inside part v) : Inside part (.tuple items)
  | entry {entries : List (String × Value)} {name : String} {v : Value} (hmem : (name, v) ∈ entries)
    (h : Inside part v) : Inside part (.dict entries)

theorem Every.self {v : Value} (h : v.Every p) : p v := by
  cases v with
  | list items => exact (every_list.mp h).1
  | tuple items => exact (every_tuple.mp h).1
  | dict entries => exact (every_dict.mp h).1
  | _ => exact h

theorem Every.of_inside {part v : Value} (h : v.Every p) (hpart : part.Inside v) : p part := by
  induction hpart with
  | self => exact h.self
  | item hmem _ ih => exact ih ((every_list.mp h).2 _ hmem)
  | component hmem _ ih => exact ih ((every_tuple.mp h).2 _ hmem)
  | entry hmem _ ih => exact ih ((every_dict.mp h).2 _ hmem)

/-- What holds of a value and of all values inside holds of each of its parts. -/
theorem every_iff_inside {v : Value} : v.Every p ↔ ∀ part : Value, part.Inside v → p part := by
  refine ⟨fun h part => h.of_inside, fun h => ?_⟩
  induction v using Value.induction with
  | list items ih =>
    exact every_list.mpr ⟨h _ .self, fun v hmem => ih v hmem fun part hpart => h part (.item hmem hpart)⟩
  | tuple items ih =>
    exact every_tuple.mpr ⟨h _ .self, fun v hmem => ih v hmem fun part hpart => h part (.component hmem hpart)⟩
  | dict entries ih =>
    exact every_dict.mpr ⟨h _ .self, fun entry hmem => ih entry hmem fun part hpart => h part (.entry hmem hpart)⟩
  | _ => exact h _ .self

end Every

/-! ### Levels -/

mutual

/-- How many levels a value has: a value with nothing inside has one. -/
def levels : Value → Nat
  | .list items => itemLevels items + 1
  | .tuple items => itemLevels items + 1
  | .dict entries => entryLevels entries + 1
  | _ => 1

/-- The levels of the deepest item. -/
def itemLevels : List Value → Nat
  | [] => 0
  | v :: rest => max (levels v) (itemLevels rest)

/-- The levels of the value of the deepest entry. -/
def entryLevels : List (String × Value) → Nat
  | [] => 0
  | (_, v) :: rest => max (levels v) (entryLevels rest)

end

theorem itemLevels_le_iff {items : List Value} {n : Nat} :
    itemLevels items ≤ n ↔ ∀ v ∈ items, v.levels ≤ n := by
  induction items with
  | nil => simp [itemLevels]
  | cons v rest ih => rw [itemLevels, Nat.max_le, ih, List.forall_mem_cons]

theorem entryLevels_le_iff {entries : List (String × Value)} {n : Nat} :
    entryLevels entries ≤ n ↔ ∀ entry ∈ entries, entry.2.levels ≤ n := by
  induction entries with
  | nil => simp [entryLevels]
  | cons entry rest ih => rw [entryLevels, Nat.max_le, ih, List.forall_mem_cons]

theorem itemLevels_map {f : Value → Value} {items : List Value} (h : ∀ v ∈ items, (f v).levels = v.levels) :
    itemLevels (items.map f) = itemLevels items := by
  induction items with
  | nil => rfl
  | cons v rest ih =>
    obtain ⟨hv, hrest⟩ := List.forall_mem_cons.mp h
    rw [List.map_cons, itemLevels, itemLevels, hv, ih hrest]

theorem entryLevels_map {f : Value → Value} {entries : List (String × Value)}
    (h : ∀ entry ∈ entries, (f entry.2).levels = entry.2.levels) :
    entryLevels (entries.map fun entry => (entry.1, f entry.2)) = entryLevels entries := by
  induction entries with
  | nil => rfl
  | cons entry rest ih =>
    obtain ⟨hentry, hrest⟩ := List.forall_mem_cons.mp h
    rw [List.map_cons, entryLevels, entryLevels, hentry, ih hrest]

/-- Fewer entries have no more levels. -/
theorem levels_dict_le_of_subset {entries entries' : List (String × Value)} (h : entries' ⊆ entries) :
    (dict entries').levels ≤ (dict entries).levels := by
  apply Nat.succ_le_succ
  exact entryLevels_le_iff.mpr fun entry he => entryLevels_le_iff.mp (Nat.le_refl _) entry (h he)

/-! ### Nested lists -/

/-- So many lists inside one. -/
def nestedLists : Nat → Value
  | 0 => .list []
  | n + 1 => .list [nestedLists n]

theorem levels_nestedLists (n : Nat) : (nestedLists n).levels = n + 1 := by
  induction n with
  | zero => rfl
  | succ n ih => rw [nestedLists, levels, itemLevels, itemLevels, ih, Nat.max_zero]

theorem levels_dict_nestedLists (name : String) (n : Nat) : (dict [(name, nestedLists n)]).levels = n + 2 := by
  rw [levels, entryLevels, entryLevels, levels_nestedLists, Nat.max_zero]

theorem every_nestedLists {p : Value → Prop} (h : ∀ items, p (.list items)) (n : Nat) : (nestedLists n).Every p := by
  induction n with
  | zero => exact every_list.mpr ⟨h _, List.forall_mem_nil _⟩
  | succ n ih => exact every_list.mpr ⟨h _, List.forall_mem_singleton.mpr ih⟩

end DeviceRelay.Value
