import DeviceRelay.Proofs.Schema.Rereading

/-!
# What a shape keeps of a value

    Json ──Schema.read──▶ document ──Schema.write──▶ Json

The two steps together are `Schema.project`: of every object, at any depth, the members that the shape
knows, each under its wire name and with the value that counts for it. Everything else stays, null and
empty arrays included, and items keep their order.

* `Schema.write_eq_project` — what is written for a document that was read is the projection.
* `Members.last?_project` — a member is in the projection exactly if it was there under one of its names.
* `Members.names_project_sublist`, `Members.nodup_names_project` — there are no other members, and none
  occurs twice.
-/

namespace DeviceRelay

open Json (last? either?)

mutual

/-- What a shape keeps of a value. -/
def Schema.project : Schema → Json → Json
  | .array item, .arr values => .arr (List.map item.project values)
  | .object members, .obj values => .obj (members.project values)
  | _, v => v

/-- What a row of members keeps of an object. -/
def Members.project : Members → List (String × Json) → List (String × Json)
  | .done, _ => []
  | .required wire own schema rest, values | .optional wire own schema rest, values =>
    match either? wire own values with
    | none => rest.project values
    | some v => (wire, schema.project v) :: rest.project values

end

theorem Schema.project_null (schema : Schema) : schema.project .null = .null := by
  cases schema <;> rfl

/-! ### Members of a projection -/

/-- The members one by one: both names, and the shape of the value. -/
def Members.fields : Members → List (String × String × Schema)
  | .done => []
  | .required wire own schema rest | .optional wire own schema rest => (wire, own, schema) :: rest.fields

theorem Members.names_project_sublist : ∀ (members : Members) (values : List (String × Json)),
    ((members.project values).map Prod.fst).Sublist (members.fields.map Prod.fst)
  | .done, _ => .slnil
  | .required wire own schema rest, values | .optional wire own schema rest, values => by
    rw [Members.project, fields]
    split
    · exact (names_project_sublist rest values).cons wire
    · exact (names_project_sublist rest values).cons_cons wire

theorem Members.mem_names_of_mem_fields : ∀ (members : Members) {wire : String},
    wire ∈ members.fields.map Prod.fst → wire ∈ members.names
  | .done, _, h => nomatch h
  | .required _ own _ rest, _, h | .optional _ own _ rest, _, h => by
    rcases List.mem_cons.mp h with rfl | h
    · exact List.mem_cons_self
    · exact List.mem_cons_of_mem _ (List.mem_cons_of_mem _ (mem_names_of_mem_fields rest h))

theorem Members.last?_project_of_notMem {members : Members} {wire : String} (h : wire ∉ members.names)
    (values : List (String × Json)) : last? wire (members.project values) = none :=
  Json.last?_eq_none_of_notMem fun hmem =>
    h (mem_names_of_mem_fields members ((names_project_sublist members values).subset hmem))

theorem Members.nodup_wires : ∀ {members : Members}, members.Distinct →
    (members.fields.map Prod.fst).Nodup
  | .done, _ => .nil
  | .required _ _ _ rest, ⟨⟨hwire, _⟩, _, hrest⟩ | .optional _ _ _ rest, ⟨⟨hwire, _⟩, _, hrest⟩ =>
    List.nodup_cons.mpr ⟨fun hmem => hwire (mem_names_of_mem_fields rest hmem), nodup_wires hrest⟩

theorem Members.nodup_names_project {members : Members} (h : members.Distinct)
    (values : List (String × Json)) : ((members.project values).map Prod.fst).Nodup :=
  (nodup_wires h).sublist (names_project_sublist members values)

/-- A member is kept exactly if it is there under one of its names, and then with the value that
counts. -/
theorem Members.last?_project : ∀ {members : Members} {wire own : String} {schema : Schema},
    members.Distinct → (wire, own, schema) ∈ members.fields → ∀ values : List (String × Json),
      last? wire (members.project values) = (either? wire own values).map schema.project
  | .done, _, _, _, _, h, _ => nomatch h
  | .required wire' own' schema' rest, wire, own, schema, ⟨⟨hwire, _⟩, _, hrest⟩, h, values
  | .optional wire' own' schema' rest, wire, own, schema, ⟨⟨hwire, _⟩, _, hrest⟩, h, values => by
    rw [Members.project]
    rcases List.mem_cons.mp h with heq | h
    · obtain ⟨rfl, rfl, rfl⟩ := heq
      have hnone := last?_project_of_notMem hwire values
      split
      · next hfound =>
        rw [hnone, hfound]
        rfl
      · next v hfound =>
        rw [Json.last?_cons_self _ hnone, hfound]
        rfl
    · have hne : wire' ≠ wire := by
        rintro rfl
        exact hwire (mem_names_of_mem_fields rest (List.mem_map_of_mem h))
      have hmore := last?_project hrest h values
      split
      · exact hmore
      · rw [Json.last?_cons_of_ne _ hne]
        exact hmore

/-! ### What is written for what was read -/

mutual

/-- What is written for a document that was read is what the shape keeps. -/
theorem Schema.write_eq_project : ∀ (schema : Schema) {v : Json} {x : schema.Item},
    schema.read v = .ok x → schema.write x = schema.project v
  | .text, v, x, h => by
    cases v with
    | str s =>
      obtain rfl := Except.ok.inj h
      rfl
    | _ => cases h
  | .integer, v, x, h => by
    cases v with
    | int n =>
      obtain rfl := Except.ok.inj h
      rfl
    | _ => cases h
  | .boolean, v, x, h => by
    cases v with
    | bool b =>
      obtain rfl := Except.ok.inj h
      rfl
    | _ => cases h
  | .array item, v, x, h => by
    cases v with
    | arr values =>
      have hitems := Checked.map_eq_of_items_eq_ok
        (fun _ _ _ hitem => Schema.write_eq_project item hitem) h
      exact congrArg Json.arr hitems
    | _ => cases h
  | .object members, v, row, h => by
    cases v with
    | obj values => exact congrArg Json.obj (Members.write_eq_project members h)
    | _ => cases h

theorem Members.write_eq_project : ∀ (members : Members) {values : List (String × Json)}
    {row : members.Row}, members.read values = .ok row → members.write row = members.project values
  | .done, _, _, _ => rfl
  | .required wire own schema rest, values, (x, row), h => by
    obtain ⟨⟨v, hfound, hx⟩, hrow⟩ := Members.read_required_eq_ok.mp h
    rw [Members.write, Members.project, hfound, Schema.write_eq_project schema hx,
      Members.write_eq_project rest hrow]
  | .optional wire own schema rest, values, (.absent, row), h => by
    obtain ⟨hfound, hrow⟩ := Members.read_optional_eq_ok.mp h
    rw [Members.write, Members.project, hfound, Members.write_eq_project rest hrow]
  | .optional wire own schema rest, values, (.null, row), h => by
    obtain ⟨hfound, hrow⟩ := Members.read_optional_eq_ok.mp h
    rw [Members.write, Members.project, hfound, Members.write_eq_project rest hrow]
    show (wire, Json.null) :: rest.project values = (wire, schema.project .null) :: rest.project values
    rw [Schema.project_null]
  | .optional wire own schema rest, values, (.given x, row), h => by
    obtain ⟨⟨v, hfound, -, hx⟩, hrow⟩ := Members.read_optional_eq_ok.mp h
    rw [Members.write, Members.project, hfound, Schema.write_eq_project schema hx,
      Members.write_eq_project rest hrow]

end

/-! ### The leaves of a projection -/

theorem Json.every_of_either? {p : Json → Prop} {wire own : String} {values : List (String × Json)}
    {v : Json} (h : EveryMember p values) (hv : either? wire own values = some v) : v.Every p := by
  rw [everyMember_iff] at h
  rcases Option.or_eq_some_iff.mp hv with hlast | ⟨-, hlast⟩
  · exact h _ (mem_of_last? hlast)
  · exact h _ (mem_of_last? hlast)

mutual

/-- What holds of all leaves of a value holds of those that are kept. -/
theorem Schema.every_project {p : Json → Prop} : ∀ (schema : Schema) {v : Json}, v.Every p →
    (schema.project v).Every p
  | .text, _, h => h
  | .integer, _, h => h
  | .boolean, _, h => h
  | .array item, v, h => by
    cases v with
    | arr values =>
      have hitems : ∀ value ∈ values, (item.project value).Every p := fun value hvalue =>
        Schema.every_project item (Json.everyItem_iff.mp h value hvalue)
      exact Json.everyItem_iff.mpr (List.forall_mem_map.mpr hitems)
    | _ => exact h
  | .object members, v, h => by
    cases v with
    | obj values => exact Members.everyMember_project members h
    | _ => exact h

theorem Members.everyMember_project {p : Json → Prop} : ∀ (members : Members)
    {values : List (String × Json)}, Json.EveryMember p values →
      Json.EveryMember p (members.project values)
  | .done, _, _ => trivial
  | .required wire own schema rest, values, h | .optional wire own schema rest, values, h => by
    have hrest := Members.everyMember_project rest h
    rw [Members.project]
    split
    · exact hrest
    · next v hfound => exact ⟨Schema.every_project schema (Json.every_of_either? h hfound), hrest⟩

end

/-- What holds of all leaves of a value that is read holds of those that are written again. -/
theorem Schema.every_write_of_read {p : Json → Prop} {schema : Schema} {v : Json} {x : schema.Item}
    (h : schema.read v = .ok x) (hv : v.Every p) : (schema.write x).Every p := by
  rw [schema.write_eq_project h]
  exact schema.every_project hv

end DeviceRelay
