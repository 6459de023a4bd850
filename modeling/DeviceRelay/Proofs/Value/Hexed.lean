import Mathlib.Data.List.Forall2
import DeviceRelay.Proofs.Dictionary
import DeviceRelay.Proofs.Hex
import DeviceRelay.Proofs.Value.Parts

/-!
# Values without octets

Octets become hexadecimal text and tuples become lists, wherever they lie, and nothing else becomes anything else. What
this means is said twice: by what lies inside the value that comes out (`Value.IsPlain`), and by how it stands to the
value that went in (`Value.Hexes`), shape by shape.

    dict   name ↦ bytes 00ff         dict   name ↦ text "00ff"
           name ↦ tuple (1, …)   ⟶          name ↦ list [1, …]
           name ↦ null                      name ↦ null

* `Value.hexes_iff` — a value stands so to one value only.
* `Value.hexed_faithful` — what comes out is plain, and where all was plain, nothing changes.
-/

namespace DeviceRelay.Value

/-- A value that is neither octets nor a tuple. -/
def IsPlain : Value → Prop
  | .bytes _ | .buffer _ | .tuple _ => False
  | _ => True

/-- A value with nothing inside that is not octets. -/
def IsLeaf : Value → Prop
  | .bytes _ | .buffer _ | .list _ | .tuple _ | .dict _ => False
  | _ => True

/-- A value and the value with the same shape, but for tuples, and with the same leaves, but for octets. -/
inductive Hexes : Value → Value → Prop
  | leaf {v : Value} (h : v.IsLeaf) : Hexes v v
  | bytes {b : Bytes} {text : String} (h : Hex.Writes b text) : Hexes (.bytes b) (.text text)
  | buffer {b : Bytes} {text : String} (h : Hex.Writes b text) : Hexes (.buffer b) (.text text)
  | list {items items' : List Value} (h : List.Forall₂ Hexes items items') : Hexes (.list items) (.list items')
  | tuple {items items' : List Value} (h : List.Forall₂ Hexes items items') : Hexes (.tuple items) (.list items')
  -- names and values are compared apart, since a relation between entries could not be nested
  | dict {entries entries' : List (String × Value)} (hnames : namesOf entries = namesOf entries')
      (h : List.Forall₂ Hexes (entries.map Prod.snd) (entries'.map Prod.snd)) : Hexes (.dict entries) (.dict entries')

/-! ### What comes out -/

/-- Nothing inside is octets or a tuple. -/
theorem every_isPlain_hexed (v : Value) : v.hexed.Every IsPlain := by
  induction v using Value.induction with
  | list items ih | tuple items ih =>
    rw [hexed, every_list, hexedItems_eq_map]
    exact ⟨trivial, List.forall_mem_map.mpr ih⟩
  | dict entries ih =>
    rw [hexed, every_dict, hexedEntries_eq_map]
    exact ⟨trivial, List.forall_mem_map.mpr ih⟩
  | _ => exact trivial

theorem hexed_of_every_isPlain {v : Value} (h : v.Every IsPlain) : v.hexed = v := by
  induction v using Value.induction with
  | bytes | buffer => exact absurd h id
  | tuple items => exact absurd (every_tuple.mp h).1 id
  | list items ih =>
    rw [hexed, hexedItems_eq_map]
    refine congrArg Value.list ((List.map_congr_left fun v hv => ?_).trans (List.map_id _))
    exact ih v hv ((every_list.mp h).2 v hv)
  | dict entries ih =>
    rw [hexed, hexedEntries_eq_map]
    refine congrArg Value.dict ((List.map_congr_left fun entry he => ?_).trans (List.map_id _))
    exact congrArg (Prod.mk entry.1) (ih entry he ((every_dict.mp h).2 entry he))
  | _ => rfl

/-- A value stays as it is exactly if nothing inside is octets or a tuple. -/
theorem every_isPlain_iff {v : Value} : v.Every IsPlain ↔ v.hexed = v :=
  ⟨hexed_of_every_isPlain, fun h => h ▸ every_isPlain_hexed v⟩

/-! ### How it stands to what went in -/

theorem forall₂_map_of_forall {α β : Type} {r : α → β → Prop} {f : α → β} {as : List α} (h : ∀ a ∈ as, r a (f a)) :
    List.Forall₂ r as (as.map f) := by
  rw [List.forall₂_map_right_iff]
  exact List.forall₂_same.mpr h

theorem map_eq_of_forall₂ {α β : Type} {r : α → β → Prop} {f : α → β} {as : List α} {bs : List β}
    (h : ∀ a ∈ as, ∀ b, r a b → f a = b) (hr : List.Forall₂ r as bs) : as.map f = bs := by
  induction hr with
  | nil => rfl
  | cons hab _ ih =>
    obtain ⟨ha, has⟩ := List.forall_mem_cons.mp h
    rw [List.map_cons, ha _ hab, ih has]

theorem values_map (f : Value → Value) (entries : List (String × Value)) :
    (entries.map fun entry => (entry.1, f entry.2)).map Prod.snd = (entries.map Prod.snd).map f := by
  rw [List.map_map, List.map_map]
  rfl

/-- Entries are told apart by their names and their values. -/
theorem entries_eq_iff {entries entries' : List (String × Value)} :
    entries = entries' ↔ namesOf entries = namesOf entries' ∧ entries.map Prod.snd = entries'.map Prod.snd := by
  constructor
  · rintro rfl
    exact ⟨rfl, rfl⟩
  · rintro ⟨hnames, hvalues⟩
    exact (List.zip_of_prod hnames hvalues).trans (List.zip_of_prod rfl rfl).symm

/-- A value stands so to the value that comes out. -/
theorem hexes_hexed (v : Value) : v.Hexes v.hexed := by
  induction v using Value.induction with
  | bytes b => exact .bytes (Hex.writes_iff.mpr rfl)
  | buffer b => exact .buffer (Hex.writes_iff.mpr rfl)
  | list items ih =>
    rw [hexed, hexedItems_eq_map]
    exact .list (forall₂_map_of_forall ih)
  | tuple items ih =>
    rw [hexed, hexedItems_eq_map]
    exact .tuple (forall₂_map_of_forall ih)
  | dict entries ih =>
    rw [hexed, hexedEntries_eq_map]
    refine .dict (namesOf_map hexed entries).symm ?_
    rw [values_map]
    exact forall₂_map_of_forall (List.forall_mem_map.mpr ih)
  | _ => exact .leaf trivial

/-- A value stands so to no other. -/
theorem Hexes.hexed_eq {v w : Value} (h : v.Hexes w) : v.hexed = w := by
  induction v using Value.induction generalizing w with
  | bytes b =>
    cases h with
    | leaf hleaf => exact absurd hleaf id
    | bytes hwrites => exact congrArg Value.text (Hex.writes_iff.mp hwrites).symm
  | buffer b =>
    cases h with
    | leaf hleaf => exact absurd hleaf id
    | buffer hwrites => exact congrArg Value.text (Hex.writes_iff.mp hwrites).symm
  | list items ih =>
    cases h with
    | leaf hleaf => exact absurd hleaf id
    | list hitems => rw [hexed, hexedItems_eq_map, map_eq_of_forall₂ (fun v hv w => ih v hv) hitems]
  | tuple items ih =>
    cases h with
    | leaf hleaf => exact absurd hleaf id
    | tuple hitems => rw [hexed, hexedItems_eq_map, map_eq_of_forall₂ (fun v hv w => ih v hv) hitems]
  | dict entries ih =>
    cases h with
    | leaf hleaf => exact absurd hleaf id
    | dict hnames hvalues =>
      rw [hexed, hexedEntries_eq_map]
      refine congrArg Value.dict (entries_eq_iff.mpr ⟨(namesOf_map hexed entries).trans hnames, ?_⟩)
      rw [values_map]
      exact map_eq_of_forall₂ (List.forall_mem_map.mpr fun entry he w => ih entry he) hvalues
  | _ =>
    cases h
    rfl

theorem hexes_iff {v w : Value} : v.Hexes w ↔ v.hexed = w :=
  ⟨Hexes.hexed_eq, fun h => h ▸ hexes_hexed v⟩

/-- What comes out holds no octets and no tuples at any depth, and is the only value that has the shape and the leaves
of what went in, but for octets and tuples. Exactly what holds none of either stays as it is, and so does what comes
out. -/
theorem hexed_faithful (v : Value) :
    (∀ part : Value, part.Inside v.hexed → part.IsPlain) ∧ (∀ w, v.Hexes w ↔ v.hexed = w) ∧
      ((∀ part : Value, part.Inside v → part.IsPlain) ↔ v.hexed = v) ∧ v.hexed.hexed = v.hexed := by
  have hplain := every_isPlain_hexed v
  refine ⟨every_iff_inside.mp hplain, fun w => hexes_iff, ?_, hexed_of_every_isPlain hplain⟩
  rw [← every_iff_inside]
  exact every_isPlain_iff

example :
    (Value.dict [("frame", .tuple [.bytes [0x00, 0xFF], .null]), ("", .buffer [])]).hexed =
      .dict [("frame", .list [.text "00ff", .null]), ("", .text "")] := rfl

end DeviceRelay.Value
