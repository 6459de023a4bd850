import DeviceRelay.Proofs.Schema.Rereading

/-!
# The members of a shape

An object's members stand in a row; here they are a list, and each of them is looked at on its own. What holds of
the shapes of all members of an object is what an induction on shapes has to offer at the object.

* `Schema.induction` — induction on shapes, in which an object comes behind all its members' shapes.
* `Member.Given` — the member is in an object under one of its two names, with the value that counts.
* `Members.eq_of_mem_names` — a name belongs to one member only.
* `Member.read` — a member is read on its own, and `Members.read_required`, `Members.read_optional` put a row together.
-/

namespace DeviceRelay

open Json (last? either?)

/-- A member of an object: both names, the shape of its value, and whether it may be missing. -/
structure Member where
  wire : String
  own : String
  schema : Schema
  isOptional : Bool

/-- The names that a member is looked up by. -/
def Member.names (m : Member) : List String := [m.wire, m.own]

theorem Member.mem_names_iff {m : Member} {name : String} : name ∈ m.names ↔ name = m.wire ∨ name = m.own := by
  simp [names]

/-- The members one by one. -/
def Members.toList : Members → List Member
  | .done => []
  | .required wire own schema rest => ⟨wire, own, schema, false⟩ :: rest.toList
  | .optional wire own schema rest => ⟨wire, own, schema, true⟩ :: rest.toList

/-- Induction on shapes: an object has a property if the shapes of all its members have it. -/
theorem Schema.induction {P : Schema → Prop} (text : P .text) (integer : P .integer) (boolean : P .boolean)
    (array : ∀ item, P item → P (.array item))
    (object : ∀ members : Members, (∀ m ∈ members.toList, P m.schema) → P (.object members))
    (schema : Schema) : P schema := by
  refine @Schema.rec P (fun members => ∀ m ∈ members.toList, P m.schema) text integer boolean array object
    ?_ ?_ ?_ schema
  · intro m hm
    cases hm
  · intro wire own schema rest hschema hrest m hm
    rcases List.mem_cons.mp hm with rfl | hm
    · exact hschema
    · exact hrest m hm
  · intro wire own schema rest hschema hrest m hm
    rcases List.mem_cons.mp hm with rfl | hm
    · exact hschema
    · exact hrest m hm

/-! ### Names -/

theorem Members.mem_names_iff : ∀ {members : Members} {name : String},
    name ∈ members.names ↔ ∃ m ∈ members.toList, name ∈ m.names
  | .done, _ => by simp [names, toList]
  | .required _ _ _ rest, _ | .optional _ _ _ rest, _ => by
    simp [names, toList, Member.names, @mem_names_iff rest, or_assoc]

theorem Members.distinct_of_mem : ∀ {members : Members}, members.Distinct →
    ∀ m ∈ members.toList, m.schema.Distinct
  | .done, _, _, h => nomatch h
  | .required _ _ _ rest, ⟨_, hschema, hrest⟩, m, h | .optional _ _ _ rest, ⟨_, hschema, hrest⟩, m, h => by
    rcases List.mem_cons.mp h with rfl | h
    · exact hschema
    · exact distinct_of_mem hrest m h

/-- A name belongs to one member only. -/
theorem Members.eq_of_mem_names : ∀ {members : Members}, members.Distinct → ∀ {m m' : Member} {name : String},
    m ∈ members.toList → m' ∈ members.toList → name ∈ m.names → name ∈ m'.names → m = m'
  | .done, _, _, _, _, h, _, _, _ => nomatch h
  | .required wire own _ rest, ⟨⟨hwire, hown⟩, _, hrest⟩, m, m', name, hm, hm', hname, hname'
  | .optional wire own _ rest, ⟨⟨hwire, hown⟩, _, hrest⟩, m, m', name, hm, hm', hname, hname' => by
    -- a name of the first member belongs to none behind it
    have hfirst : name = wire ∨ name = own → ∀ m ∈ rest.toList, name ∉ m.names := by
      intro hname m hm hmem
      have hrest := mem_names_iff.mpr ⟨m, hm, hmem⟩
      rcases hname with rfl | rfl
      · exact hwire hrest
      · exact hown hrest
    rcases List.mem_cons.mp hm with rfl | hm
    · rcases List.mem_cons.mp hm' with rfl | hm'
      · rfl
      · exact absurd hname' (hfirst (Member.mem_names_iff.mp hname) m' hm')
    · rcases List.mem_cons.mp hm' with rfl | hm'
      · exact absurd hname (hfirst (Member.mem_names_iff.mp hname') m hm)
      · exact eq_of_mem_names hrest hm hm' hname hname'

/-! ### Values -/

/-- A member is in an object under a name with a value: the last one of its wire name counts, and without one the
last one of its own name. -/
inductive Member.Given (m : Member) (values : List (String × Json)) : String → Json → Prop
  | wire {v : Json} (h : last? m.wire values = some v) : Given m values m.wire v
  | own {v : Json} (hwire : last? m.wire values = none) (h : last? m.own values = some v) :
    Given m values m.own v

theorem Member.given_iff {m : Member} {values : List (String × Json)} {name : String} {v : Json} :
    m.Given values name v ↔ Members.find? m.wire m.own values = some (name, v) := by
  unfold Members.find?
  constructor
  · rintro (⟨h⟩ | ⟨hwire, h⟩)
    · rw [h]
    · rw [hwire, h]
      rfl
  · intro h
    split at h
    · next w hw =>
      obtain ⟨rfl, rfl⟩ := Prod.mk.inj (Option.some.inj h)
      exact .wire hw
    · next hnone =>
      obtain ⟨w, hw, heq⟩ := Option.map_eq_some_iff.mp h
      obtain ⟨rfl, rfl⟩ := Prod.mk.inj heq
      exact .own hnone hw

theorem Member.given_unique {m : Member} {values : List (String × Json)} {name name' : String} {v v' : Json}
    (h : m.Given values name v) (h' : m.Given values name' v') : name' = name ∧ v' = v :=
  Prod.mk.inj (Option.some.inj ((given_iff.mp h').symm.trans (given_iff.mp h)))

theorem Member.mem_of_given {m : Member} {values : List (String × Json)} {name : String} {v : Json}
    (h : m.Given values name v) : (name, v) ∈ values := by
  cases h with
  | wire h => exact Json.mem_of_last? h
  | own hwire h => exact Json.mem_of_last? h

theorem Member.mem_names_of_given {m : Member} {values : List (String × Json)} {name : String} {v : Json}
    (h : m.Given values name v) : name ∈ m.names := by
  cases h with
  | wire h => exact mem_names_iff.mpr (Or.inl rfl)
  | own hwire h => exact mem_names_iff.mpr (Or.inr rfl)

/-! ### Reading a member -/

/-- A member is missing, or null where this is allowed, or given. -/
theorem Member.missing_or_null_or_given (m : Member) (values : List (String × Json)) :
    (∀ name v, ¬m.Given values name v) ∨ (m.isOptional = true ∧ ∃ name, m.Given values name .null) ∨
      ∃ name v, m.Given values name v ∧ (m.isOptional = true → v ≠ .null) := by
  cases hfound : Members.find? m.wire m.own values with
  | none =>
    refine Or.inl fun name v h => ?_
    rw [given_iff, hfound] at h
    cases h
  | some found =>
    obtain ⟨name, v⟩ := found
    have hgiven : m.Given values name v := given_iff.mpr hfound
    by_cases hnull : m.isOptional = true ∧ v = .null
    · obtain ⟨hm, rfl⟩ := hnull
      exact Or.inr (Or.inl ⟨hm, name, hgiven⟩)
    · exact Or.inr (Or.inr ⟨name, v, hgiven, fun hm hv => hnull ⟨hm, hv⟩⟩)

/-- Read a member of an object. What a required member has is given as well. -/
def Member.read (m : Member) (values : List (String × Json)) : Checked (Slot m.schema.Item) :=
  match Members.find? m.wire m.own values with
  | none => if m.isOptional then .ok .absent else .error [.ofField m.wire .missing]
  | some (name, v) =>
    match m.isOptional, v with
    | true, .null => .ok .null
    | _, _ => (Checked.under (.field name) (m.schema.read v)).map .given

section Reading

variable {m : Member} {values : List (String × Json)} {name : String} {v : Json}

theorem Member.read_of_missing (h : ∀ name v, ¬m.Given values name v) :
    m.read values = if m.isOptional then .ok .absent else .error [.ofField m.wire .missing] := by
  have hfound : Members.find? m.wire m.own values = none := by
    cases hfound : Members.find? m.wire m.own values with
    | none => rfl
    | some found => exact absurd (given_iff.mpr hfound) (h found.1 found.2)
  rw [read, hfound]

theorem Member.read_of_null (hm : m.isOptional = true) (h : m.Given values name .null) :
    m.read values = .ok .null := by
  rw [read, given_iff.mp h, hm]

theorem Member.read_of_given (h : m.Given values name v) (hnull : m.isOptional = true → v ≠ .null) :
    m.read values = (Checked.under (.field name) (m.schema.read v)).map .given := by
  rw [read, given_iff.mp h]
  dsimp only
  split
  · next hm => exact absurd rfl (hnull hm)
  · rfl

end Reading

section Row

variable {wire own : String} {schema : Schema} {rest : Members} {values : List (String × Json)}

/-- The first member of a row is read on its own. -/
theorem Members.read_required :
    ((Members.required wire own schema rest).read values).map (fun p => (Slot.given p.1, p.2)) =
      Checked.both (Member.read ⟨wire, own, schema, false⟩ values) (rest.read values) := by
  rw [read]
  refine (Checked.both_map _ _ Slot.given id).trans (congr (congrArg Checked.both ?_) (congrFun Except.map_id _))
  unfold Member.read
  cases Members.find? wire own values <;> rfl

theorem Members.read_optional : (Members.optional wire own schema rest).read values =
    Checked.both (Member.read ⟨wire, own, schema, true⟩ values) (rest.read values) := by
  rw [read]
  refine congrArg (Checked.both · _) ?_
  unfold Member.read
  cases Members.find? wire own values with
  | none => rfl
  | some found =>
    obtain ⟨name, v⟩ := found
    cases v <;> rfl

end Row

end DeviceRelay
