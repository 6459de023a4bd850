import DeviceRelay.Proofs.Json.Numerals
import DeviceRelay.Proofs.Refusal
import DeviceRelay.Proofs.Value.Recorded
import DeviceRelay.Value.Published

/-!
# Which values can be published

A value can be published if each of its parts can, at any depth. What it is published as is a function of the value
alone (`Value.publishedForm`), and a reader of that has the value itself, with lists for tuples and texts for timestamps
and octets (`Value.received`).

    Value ──published?──▶ Json ──ofJson──▶ received        exactly if every part is publishable

* `Value.published?_eq_ok_iff` — whether there is a form, and which.
* `Value.exists_inside_of_published?` — where there is none, one of the parts has none by itself, for the same reason.
* `Value.ofJson_publishedForm` — what is read of the form.
* `Value.legible_publishedForm` — its leaves are read back from their texts.
-/

namespace DeviceRelay

namespace Value

/-! ### Forms -/

mutual

/-- The JSON form of a published value. -/
def publishedForm : Value → Json
  | .null => .null
  | .bool b => .bool b
  | .int n => .int n
  | .float x => .float x
  | .text s => .str s
  | .bytes b => .str (Hex.encode b)
  | .buffer _ => .null
  | .list items => .arr (publishedFormItems items)
  | .tuple items => .arr (publishedFormItems items)
  | .dict entries => .obj (publishedFormEntries entries)
  | .instant t => .str t.isoText
  | .object => .null

/-- The forms of items. -/
def publishedFormItems : List Value → List Json
  | [] => []
  | v :: rest => publishedForm v :: publishedFormItems rest

/-- The forms of entries. -/
def publishedFormEntries : List (String × Value) → List (String × Json)
  | [] => []
  | (name, v) :: rest => (name, publishedForm v) :: publishedFormEntries rest

end

theorem publishedFormItems_eq_map (items : List Value) : publishedFormItems items = items.map publishedForm := by
  induction items with
  | nil => rfl
  | cons v rest ih => rw [publishedFormItems, ih, List.map_cons]

theorem publishedFormEntries_eq_map (entries : List (String × Value)) :
    publishedFormEntries entries = entries.map fun entry => (entry.1, entry.2.publishedForm) := by
  induction entries with
  | nil => rfl
  | cons entry rest ih => rw [publishedFormEntries, ih, List.map_cons]

mutual

/-- What the readers of a published value have: lists for tuples, and texts for timestamps and octets. -/
def received : Value → Value
  | .bytes b => .text (Hex.encode b)
  | .instant t => .text t.isoText
  | .list items => .list (receivedItems items)
  | .tuple items => .list (receivedItems items)
  | .dict entries => .dict (receivedEntries entries)
  | v => v

/-- What they have of items. -/
def receivedItems : List Value → List Value
  | [] => []
  | v :: rest => received v :: receivedItems rest

/-- What they have of entries. -/
def receivedEntries : List (String × Value) → List (String × Value)
  | [] => []
  | (name, v) :: rest => (name, received v) :: receivedEntries rest

end

theorem receivedItems_eq_map (items : List Value) : receivedItems items = items.map received := by
  induction items with
  | nil => rfl
  | cons v rest ih => rw [receivedItems, ih, List.map_cons]

theorem receivedEntries_eq_map (entries : List (String × Value)) :
    receivedEntries entries = entries.map fun entry => (entry.1, entry.2.received) := by
  induction entries with
  | nil => rfl
  | cons entry rest ih => rw [receivedEntries, ih, List.map_cons]

/-! ### Publishable values -/

/-- Nothing but its parts keeps a value from being published: it is of a kind with a JSON form, and an integer has few
enough digits. -/
def IsPublishable : Value → Prop
  | .int n => Json.digitCount n ≤ Text.digitLimit
  | .buffer _ | .object => False
  | _ => True

theorem publishedItems?_eq_mapM (items : List Value) : publishedItems? items = items.mapM published? := by
  induction items with
  | nil => rfl
  | cons v rest ih =>
    rw [mapM_cons_eq, ← ih]
    show (published? v).bind _ = _
    cases publishedItems? rest <;> rfl

theorem publishedEntries?_eq_mapM (entries : List (String × Value)) :
    publishedEntries? entries = entries.mapM fun entry => (published? entry.2).map (entry.1, ·) := by
  induction entries with
  | nil => rfl
  | cons entry rest ih =>
    rw [mapM_cons_eq, ← ih, bind_map]
    show (published? entry.2).bind _ = _
    cases publishedEntries? rest <;> rfl

theorem published?_int_eq_ok_iff {n : Int} {j : Json} :
    published? (.int n) = .ok j ↔ Json.digitCount n ≤ Text.digitLimit ∧ .int n = j := by
  rw [published?, ← Json.isWritable_int_iff]
  cases Text.isWritable n <;> simp

/-- A value can be published exactly if each of its parts is publishable. -/
theorem published?_eq_ok_iff {v : Value} {j : Json} :
    published? v = .ok j ↔ v.Every IsPublishable ∧ v.publishedForm = j := by
  induction v using Value.induction generalizing j with
  | list items ih | tuple items ih =>
    have hitems (js : List Json) : publishedItems? items = .ok js ↔
        (∀ v ∈ items, v.Every IsPublishable) ∧ items.map publishedForm = js := by
      rw [publishedItems?_eq_mapM]
      exact mapM_eq_ok_iff_forall fun v hv j => ih v hv
    rw [published?, map_eq_ok_iff_of hitems]
    simp [every_list, every_tuple, IsPublishable, publishedForm, publishedFormItems_eq_map]
  | dict entries ih =>
    have hentries (members : List (String × Json)) : publishedEntries? entries = .ok members ↔
        (∀ entry ∈ entries, entry.2.Every IsPublishable) ∧
          (entries.map fun entry => (entry.1, entry.2.publishedForm)) = members := by
      rw [publishedEntries?_eq_mapM]
      exact mapM_eq_ok_iff_forall fun entry hentry _ => map_eq_ok_iff_of fun j => ih entry hentry
    rw [published?, map_eq_ok_iff_of hentries]
    simp [every_dict, IsPublishable, publishedForm, publishedFormEntries_eq_map]
  | int n => exact published?_int_eq_ok_iff
  | _ => simp [published?, Every, IsPublishable, publishedForm]

theorem exists_mem_of_publishedItems? {items : List Value} {fault : PublishFault}
    (h : publishedItems? items = .error fault) : ∃ v ∈ items, published? v = .error fault := by
  rw [publishedItems?_eq_mapM, mapM_eq_error] at h
  obtain ⟨front, v, back, rfl, -, hv⟩ := h
  exact ⟨v, List.mem_append_right _ List.mem_cons_self, hv⟩

theorem exists_mem_of_publishedEntries? {entries : List (String × Value)} {fault : PublishFault}
    (h : publishedEntries? entries = .error fault) : ∃ entry ∈ entries, published? entry.2 = .error fault := by
  rw [publishedEntries?_eq_mapM, mapM_eq_error] at h
  obtain ⟨front, entry, back, rfl, -, hentry⟩ := h
  exact ⟨entry, List.mem_append_right _ List.mem_cons_self, map_eq_error.mp hentry⟩

/-- What keeps a value from being published keeps one of its parts from it, whatever is inside that part. -/
theorem exists_inside_of_published? {v : Value} {fault : PublishFault} (h : published? v = .error fault) :
    ∃ part : Value, part.Inside v ∧ ¬part.IsPublishable ∧ published? part = .error fault := by
  induction v using Value.induction with
  | list items ih =>
    obtain ⟨v, hmem, hv⟩ := exists_mem_of_publishedItems? (map_eq_error.mp h)
    obtain ⟨part, hinside, hpart⟩ := ih v hmem hv
    exact ⟨part, .item hmem hinside, hpart⟩
  | tuple items ih =>
    obtain ⟨v, hmem, hv⟩ := exists_mem_of_publishedItems? (map_eq_error.mp h)
    obtain ⟨part, hinside, hpart⟩ := ih v hmem hv
    exact ⟨part, .component hmem hinside, hpart⟩
  | dict entries ih =>
    obtain ⟨entry, hmem, hentry⟩ := exists_mem_of_publishedEntries? (map_eq_error.mp h)
    obtain ⟨part, hinside, hpart⟩ := ih entry hmem hentry
    exact ⟨part, .entry hmem hinside, hpart⟩
  | int n =>
    refine ⟨.int n, .self, fun hn => ?_, h⟩
    rw [published?_int_eq_ok_iff.mpr ⟨hn, rfl⟩] at h
    cases h
  | buffer b => exact ⟨.buffer b, .self, id, h⟩
  | object => exact ⟨.object, .self, id, h⟩
  | _ => cases h

/-- A part that is not publishable keeps the whole from being published. -/
theorem exists_error_of_inside {part v : Value} (hinside : part.Inside v) (hpart : ¬part.IsPublishable) :
    ∃ fault, published? v = .error fault := by
  cases h : published? v with
  | error fault => exact ⟨fault, rfl⟩
  | ok j => exact absurd ((published?_eq_ok_iff.mp h).1.of_inside hinside) hpart

/-! ### Reading a form -/

/-- A value of a kind that is read back: an integer has few enough digits, a number is finite, and a dictionary has
distinct names. -/
def IsSendable : Value → Prop
  | .null | .bool _ | .text _ | .bytes _ | .instant _ | .list _ | .tuple _ => True
  | .int n => Json.digitCount n ≤ Text.digitLimit
  | .float x => x.isFinite = true
  | .dict entries => (namesOf entries).Nodup
  | .buffer _ | .object => False

theorem IsSendable.isPublishable {v : Value} (h : v.IsSendable) : v.IsPublishable := by
  cases v with
  | int n => exact h
  | buffer b | object => exact h
  | _ => trivial

theorem ofItems_publishedFormItems (items : List Value) :
    ofItems (publishedFormItems items) = items.map fun v => ofJson v.publishedForm := by
  rw [publishedFormItems_eq_map, ofItems_eq_map, List.map_map]
  rfl

theorem ofMembers_publishedFormEntries (entries : List (String × Value)) :
    ofMembers (publishedFormEntries entries) = entries.map fun entry => (entry.1, ofJson entry.2.publishedForm) := by
  rw [publishedFormEntries_eq_map, ofMembers_eq_map, List.map_map]
  rfl

/-- The readers of a form have what the value is received as. -/
theorem ofJson_publishedForm {v : Value} (h : v.Every IsSendable) : ofJson v.publishedForm = v.received := by
  induction v using Value.induction with
  | list items ih | tuple items ih =>
    simp only [every_list, every_tuple] at h
    rw [publishedForm, ofJson, received, ofItems_publishedFormItems, receivedItems_eq_map]
    exact congrArg Value.list (List.map_congr_left fun v hv => ih v hv (h.2 v hv))
  | dict entries ih =>
    obtain ⟨hnames, hentries⟩ := every_dict.mp h
    rw [publishedForm, ofJson, received, ofMembers_publishedFormEntries, receivedEntries_eq_map, lastEntries_of_nodup]
    · exact congrArg Value.dict (List.map_congr_left fun entry he =>
        congrArg (Prod.mk entry.1) (ih entry he (hentries entry he)))
    · rwa [namesOf_map fun v => ofJson (publishedForm v)]
  | buffer | object => exact absurd h id
  | _ => rfl

example : received (.tuple [.bytes [0xDE, 0x0D], .instant (.utc 0)]) =
    .list [.text "de0d", .text "1970-01-01T00:00:00+00:00"] := by
  rfl

end Value

/-- The limits of a reader that goes to any depth, and takes the integers that may be written out. -/
def Json.anyDepth : Json.Limits := ⟨none, some Text.digitLimit, none⟩

/-- The leaves of a form are read back from their texts. -/
theorem Value.legible_publishedForm {v : Value} (h : v.Every IsSendable) :
    v.publishedForm.Every Json.anyDepth.Legible := by
  induction v using Value.induction with
  | list items ih | tuple items ih =>
    simp only [every_list, every_tuple] at h
    rw [publishedForm, Json.every_arr, publishedFormItems_eq_map, List.forall_mem_map]
    exact fun v hv => ih v hv (h.2 v hv)
  | dict entries ih =>
    obtain ⟨-, hentries⟩ := every_dict.mp h
    rw [publishedForm, Json.every_obj, publishedFormEntries_eq_map, List.forall_mem_map]
    exact fun entry he => ih entry he (hentries entry he)
  | int n =>
    rintro limit ⟨⟩
    exact h
  | float x =>
    obtain ⟨digits, -, hread⟩ := Json.ofWord_text h
    exact ⟨digits, hread, nofun⟩
  | _ => trivial

end DeviceRelay
