import DeviceRelay.Proofs.Checked
import DeviceRelay.Proofs.Dictionary
import DeviceRelay.Proofs.Json.Leaves
import DeviceRelay.Proofs.Value.Parts
import DeviceRelay.RawMessage
import DeviceRelay.Value.Text

/-!
# Which values a record can keep

A value can stand inside a record if it has a form and not too many levels. The form itself is a function of the
value alone (`Value.form`); how much room there is decides only whether it is given.

    Value ──hexed──▶ Value ──recorded? room──▶ Json        exactly if levels ≤ room, and then form

* `Value.recorded?_hexed_eq_ok_iff` — one value.
* `Value.recordedDictionary?_map_hexed_eq_ok_iff` — the metrics of a message.
* `Value.recorded?_ofJson_eq_ok_iff` — what comes from JSON has a form, which is how a kept message is written again.
-/

namespace DeviceRelay

namespace Value

/-! ### Forms -/

mutual

/-- The JSON form inside a record, with hexadecimal text for octets. -/
def form : Value → Json
  | .null => .null
  | .bool b => .bool b
  | .int n => .int n
  | .float x => finiteJson x
  | .text s => .str s
  | .bytes b => .str (Hex.encode b)
  | .buffer b => .str (Hex.encode b)
  | .list items => .arr (formItems items)
  | .tuple items => .arr (formItems items)
  | .dict entries => .obj (formEntries entries)
  | .instant t => .str t.text
  | .object => .null

/-- The forms of items. -/
def formItems : List Value → List Json
  | [] => []
  | v :: rest => form v :: formItems rest

/-- The forms of entries. -/
def formEntries : List (String × Value) → List (String × Json)
  | [] => []
  | (name, v) :: rest => (name, form v) :: formEntries rest

end

theorem formItems_eq_map (items : List Value) : formItems items = items.map form := by
  induction items with
  | nil => rfl
  | cons v rest ih => rw [formItems, ih, List.map_cons]

theorem formEntries_eq_map (entries : List (String × Value)) :
    formEntries entries = entries.map fun entry => (entry.1, entry.2.form) := by
  induction entries with
  | nil => rfl
  | cons entry rest ih => rw [formEntries, ih, List.map_cons]

/-- Nothing inside is without a form. -/
def HasForm (v : Value) : Prop := v.Every (· ≠ .object)

/-! ### Room -/

theorem recordedItems?_eq_mapM (room : Nat) (items : List Value) :
    recordedItems? room items = items.mapM (recorded? room) := by
  induction items with
  | nil => rfl
  | cons v rest ih =>
    rw [mapM_cons_eq, ← ih]
    show (recorded? room v).bind _ = _
    cases recordedItems? room rest <;> rfl

theorem recordedEntries?_eq_mapM (room : Nat) (entries : List (String × Value)) :
    recordedEntries? room entries =
      entries.mapM fun entry => (recorded? room entry.2).map (entry.1, ·) := by
  induction entries with
  | nil => rfl
  | cons entry rest ih =>
    rw [mapM_cons_eq, ← ih, bind_map]
    show (recorded? room entry.2).bind _ = _
    cases recordedEntries? room rest <;> rfl

theorem recordedItems?_hexed_eq_ok_iff {room : Nat} {items : List Value} {js : List Json}
    (h : ∀ v ∈ items, ∀ j, recorded? room v.hexed = .ok j ↔ (v.levels ≤ room ∧ v.HasForm) ∧ v.form = j) :
    recordedItems? room (hexedItems items) = .ok js ↔
      (∀ v ∈ items, v.levels ≤ room ∧ v.HasForm) ∧ items.map form = js := by
  rw [recordedItems?_eq_mapM, hexedItems_eq_map, List.mapM_map]
  exact mapM_eq_ok_iff_forall h

theorem recordedEntries?_hexed_eq_ok_iff {room : Nat} {entries : List (String × Value)}
    {members : List (String × Json)}
    (h : ∀ entry ∈ entries, ∀ j, recorded? room entry.2.hexed = .ok j ↔
      (entry.2.levels ≤ room ∧ entry.2.HasForm) ∧ entry.2.form = j) :
    recordedEntries? room (hexedEntries entries) = .ok members ↔
      (∀ entry ∈ entries, entry.2.levels ≤ room ∧ entry.2.HasForm) ∧
        (entries.map fun entry => (entry.1, entry.2.form)) = members := by
  rw [recordedEntries?_eq_mapM, hexedEntries_eq_map, List.mapM_map]
  exact mapM_eq_ok_iff_forall fun entry hmem member => map_eq_ok_iff_of (h entry hmem)

/-- A value has room in a record exactly if it has a form and no more levels than the room. -/
theorem recorded?_hexed_eq_ok_iff {room : Nat} {v : Value} {j : Json} :
    recorded? room v.hexed = .ok j ↔ (v.levels ≤ room ∧ v.HasForm) ∧ v.form = j := by
  induction v using Value.induction generalizing room j with
  | list items ih | tuple items ih =>
    cases room with
    | zero => simp [recorded?, levels]
    | succ room =>
      rw [hexed, recorded?, map_eq_ok_iff_of fun js => recordedItems?_hexed_eq_ok_iff fun v hv j => ih v hv]
      simp [levels, itemLevels_le_iff, HasForm, every_list, every_tuple, form, formItems_eq_map, forall_and]
  | dict entries ih =>
    cases room with
    | zero => simp [recorded?, levels]
    | succ room =>
      rw [hexed, recorded?, map_eq_ok_iff_of fun members =>
        recordedEntries?_hexed_eq_ok_iff fun entry hentry j => ih entry hentry]
      simp [levels, entryLevels_le_iff, HasForm, every_dict, form, formEntries_eq_map, forall_and]
  | _ => cases room <;> simp [recorded?, hexed, levels, HasForm, Every, form]

/-- The same for a whole dictionary: a record gives one level more to it. -/
theorem recordedDictionary?_map_hexed_eq_ok_iff {d : Dictionary Value} {j : Json} :
    recordedDictionary? (d.map hexed) = .ok j ↔
      ((dict d.entries).levels ≤ recordLevels + 1 ∧ (dict d.entries).HasForm) ∧ (dict d.entries).form = j := by
  rw [← recorded?_hexed_eq_ok_iff, hexed, hexedEntries_eq_map]
  exact Iff.rfl

/-! ### Forms as values -/

/-- The entries of a dictionary that comes from JSON come from members. -/
theorem exists_member_of_mem {members : List (String × Json)} {entry : String × Value}
    (h : entry ∈ lastEntries (ofMembers members)) : ∃ member ∈ members, (member.1, ofJson member.2) = entry := by
  have hmem := mem_of_mem_lastEntries h
  rwa [ofMembers_eq_map, List.mem_map] at hmem

/-- What comes from JSON holds no octets. -/
theorem hexed_ofJson (j : Json) : (ofJson j).hexed = ofJson j := by
  induction j using Json.induction with
  | arr items ih =>
    rw [ofJson, hexed, hexedItems_eq_map, ofItems_eq_map, List.map_map]
    exact congrArg Value.list (List.map_congr_left ih)
  | obj members ih =>
    rw [ofJson, hexed, hexedEntries_eq_map]
    refine congrArg Value.dict ((List.map_congr_left fun entry hentry => ?_).trans (List.map_id _))
    obtain ⟨member, hmember, rfl⟩ := exists_member_of_mem hentry
    exact congrArg (Prod.mk member.1) (ih member hmember)
  | _ => rfl

theorem hasForm_ofJson (j : Json) : (ofJson j).HasForm := by
  induction j using Json.induction with
  | arr items ih =>
    rw [ofJson, HasForm, every_list, ofItems_eq_map]
    exact ⟨nofun, List.forall_mem_map.mpr ih⟩
  | obj members ih =>
    rw [ofJson, HasForm, every_dict]
    refine ⟨nofun, fun entry hentry => ?_⟩
    obtain ⟨member, hmember, rfl⟩ := exists_member_of_mem hentry
    exact ih member hmember
  | _ => exact nofun

/-- What comes from JSON has room in a record exactly if it has no more levels than the room. -/
theorem recorded?_ofJson_eq_ok_iff {room : Nat} {j j' : Json} :
    recorded? room (ofJson j) = .ok j' ↔ (ofJson j).levels ≤ room ∧ (ofJson j).form = j' := by
  have h : recorded? room (ofJson j).hexed = .ok j' ↔ _ := recorded?_hexed_eq_ok_iff
  rwa [hexed_ofJson, and_iff_left (hasForm_ofJson j)] at h

/-- A dictionary of values that come from JSON has room in a record exactly if each of them has. -/
theorem recordedDictionary?_eq_ok_iff {d : Dictionary Value} {members : List (String × Json)} {j : Json}
    (hd : d.entries = members.map fun member => (member.1, ofJson member.2)) :
    recordedDictionary? d = .ok j ↔ (∀ member ∈ members, (ofJson member.2).levels ≤ recordLevels) ∧
      .obj (members.map fun member => (member.1, (ofJson member.2).form)) = j := by
  refine map_eq_ok_iff_of fun forms => ?_
  rw [recordedEntries?_eq_mapM, hd, List.mapM_map]
  exact mapM_eq_ok_iff_forall fun member _ form => map_eq_ok_iff_of fun j => recorded?_ofJson_eq_ok_iff

/-- The names of a dictionary are distinct. -/
def NamesDistinct : Value → Prop
  | .dict entries => (namesOf entries).Nodup
  | _ => True

theorem ofMembers_formEntries (entries : List (String × Value)) :
    ofMembers (formEntries entries) = entries.map fun entry => (entry.1, ofJson entry.2.form) := by
  rw [formEntries_eq_map, ofMembers_eq_map, List.map_map]
  rfl

/-- The form of a dictionary with distinct names is a dictionary with the same names. -/
theorem ofJson_form_dict {entries : List (String × Value)} (h : (namesOf entries).Nodup) :
    ofJson (form (.dict entries)) = .dict (entries.map fun entry => (entry.1, ofJson entry.2.form)) := by
  rw [form, ofJson, ofMembers_formEntries, lastEntries_of_nodup]
  rwa [namesOf_map fun v => ofJson (form v)]

theorem ofItems_formItems (items : List Value) :
    ofItems (formItems items) = items.map fun v => ofJson v.form := by
  rw [formItems_eq_map, ofItems_eq_map, List.map_map]
  rfl

/-- A form has as many levels as the value. -/
theorem levels_ofJson_form {v : Value} (h : v.Every NamesDistinct) : (ofJson v.form).levels = v.levels := by
  induction v using Value.induction with
  | float x =>
    rw [form, finiteJson]
    split <;> rfl
  | list items ih | tuple items ih =>
    simp only [every_list, every_tuple] at h
    rw [form, ofJson, ofItems_formItems]
    exact congrArg (· + 1) (itemLevels_map fun v hv => ih v hv (h.2 v hv))
  | dict entries ih =>
    obtain ⟨hnames, hentries⟩ := every_dict.mp h
    rw [ofJson_form_dict hnames]
    exact congrArg (· + 1) (entryLevels_map (f := fun v => ofJson v.form) fun entry he =>
      ih entry he (hentries entry he))
  | _ => rfl

/-- What is read from a form has that form. -/
theorem form_ofJson_form {v : Value} (h : v.Every NamesDistinct) : (ofJson v.form).form = v.form := by
  induction v using Value.induction with
  | float x =>
    rw [form, finiteJson]
    split
    · next hx => rw [ofJson, form, finiteJson, if_pos hx]
    · rfl
  | list items ih | tuple items ih =>
    simp only [every_list, every_tuple] at h
    rw [form, ofJson, form, ofItems_formItems, formItems_eq_map, formItems_eq_map, List.map_map]
    exact congrArg Json.arr (List.map_congr_left fun v hv => ih v hv (h.2 v hv))
  | dict entries ih =>
    obtain ⟨hnames, hentries⟩ := every_dict.mp h
    rw [ofJson_form_dict hnames, form, form, formEntries_eq_map, formEntries_eq_map, List.map_map]
    exact congrArg Json.obj (List.map_congr_left fun entry he =>
      congrArg (Prod.mk entry.1) (ih entry he (hentries entry he)))
  | _ => rfl

/-- A value of a kind that JSON has: a number is finite, and a dictionary has distinct names. -/
def IsJsonKind : Value → Prop
  | .null | .bool _ | .int _ | .text _ | .list _ => True
  | .float x => x.isFinite = true
  | .dict entries => (namesOf entries).Nodup
  | _ => False

/-- Such a value is what its form is. -/
theorem ofJson_form {v : Value} (h : v.Every IsJsonKind) : ofJson v.form = v := by
  induction v using Value.induction with
  | float x => rw [form, finiteJson, if_pos (show x.isFinite = true from h), ofJson]
  | list items ih =>
    rw [form, ofJson, ofItems_formItems]
    refine congrArg Value.list ((List.map_congr_left fun v hv => ?_).trans (List.map_id _))
    exact ih v hv ((every_list.mp h).2 v hv)
  | dict entries ih =>
    obtain ⟨hnames, hentries⟩ := every_dict.mp h
    rw [ofJson_form_dict hnames]
    refine congrArg Value.dict ((List.map_congr_left fun entry he => ?_).trans (List.map_id _))
    exact congrArg (Prod.mk entry.1) (ih entry he (hentries entry he))
  | tuple items => exact absurd (every_tuple.mp h).1 id
  | bytes | buffer | instant | object => exact absurd h id
  | _ => rfl

/-! ### What a form holds -/

theorem allWritable_eq_all (items : List Value) : allWritable items = items.all isWritable := by
  induction items with
  | nil => rfl
  | cons v rest ih => rw [allWritable, ih, List.all_cons]

theorem entriesWritable_eq_all (entries : List (String × Value)) :
    entriesWritable entries = entries.all fun entry => entry.2.isWritable := by
  induction entries with
  | nil => rfl
  | cons entry rest ih => rw [entriesWritable, ih, List.all_cons]

theorem isWritable_dict_iff {entries : List (String × Value)} :
    (dict entries).isWritable = true ↔ ∀ entry ∈ entries, entry.2.isWritable = true := by
  rw [isWritable, entriesWritable_eq_all, List.all_eq_true]

/-- A form may be written out exactly if the value may. -/
theorem isWritable_form_iff (v : Value) : v.form.isWritable = true ↔ v.isWritable = true := by
  induction v using Value.induction with
  | float x =>
    rw [form, finiteJson]
    split <;> exact Iff.rfl
  | list items ih | tuple items ih =>
    rw [form, Json.isWritable, isWritable, formItems_eq_map, Json.allWritable_eq_all, allWritable_eq_all,
      List.all_eq_true, List.all_eq_true, List.forall_mem_map]
    exact forall₂_congr ih
  | dict entries ih =>
    rw [form, Json.isWritable, formEntries_eq_map, Json.membersWritable_eq_all, List.all_eq_true, List.forall_mem_map,
      isWritable_dict_iff]
    exact forall₂_congr ih
  | int n => rw [form, Json.isWritable, isWritable]
  | _ => exact Iff.rfl

/-- The names of a dictionary have the property. -/
def NamesSatisfy (p : String → Prop) : Value → Prop
  | .dict entries => ∀ name ∈ namesOf entries, p name
  | _ => True

theorem everyName_form_iff {p : String → Prop} {v : Value} : v.form.EveryName p ↔ v.Every (NamesSatisfy p) := by
  induction v using Value.induction with
  | float x =>
    rw [form, finiteJson]
    split <;> exact Iff.rfl
  | list items ih | tuple items ih =>
    rw [form, Json.everyName_arr, formItems_eq_map, List.forall_mem_map]
    simp only [every_list, every_tuple, NamesSatisfy, true_and]
    exact forall₂_congr ih
  | dict entries ih =>
    rw [form, Json.everyName_obj, formEntries_eq_map, List.forall_mem_map, every_dict, NamesSatisfy, namesOf,
      List.forall_mem_map]
    simp only [forall_and]
    exact and_congr_right fun _ => forall₂_congr ih
  | _ => exact Iff.rfl

end Value

end DeviceRelay
