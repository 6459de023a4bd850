import DeviceRelay.Proofs.Checked
import DeviceRelay.Proofs.Json.Reading
import DeviceRelay.Schema.Reader
import DeviceRelay.Schema.Writer

/-!
# Documents that are read back

    document ──Schema.write──▶ Json ──Schema.read──▶ document

Members are looked up by name, so a document is read back if no two members of an object share a name,
be it the wire name or their own: `Schema.Distinct`, which a shape can be tested for. The induction is on
the shape. Along a row of members it says more than the result:

    values and write row agree on all names of the members  ⟹  read values = row

* `Schema.read_write` — a document of such a shape is read back.
* `Schema.every_write_iff` — the leaves of what is written, as far as they are integers.
* `Schema.depth_write_le` — how deep it is.
-/

namespace DeviceRelay

/-! ### Values by name -/

namespace Json

variable {α : Type} {name key : String} {values : List (String × α)}

theorem mem_of_last? {v : α} (h : last? name values = some v) : (name, v) ∈ values := by
  fun_induction last? name values with
  | case1 => cases h
  | case2 key value rest found hfound ih =>
    rw [hfound] at ih
    exact List.mem_cons_of_mem _ (ih h)
  | case3 value rest hnone ih =>
    obtain rfl := Option.some.inj h
    exact List.mem_cons_self
  | case4 key value rest hnone hne ih => cases h

theorem last?_eq_none_of_notMem (h : name ∉ values.map Prod.fst) : last? name values = none := by
  cases hlast : last? name values with
  | none => rfl
  | some v => exact absurd (List.mem_map_of_mem (mem_of_last? hlast)) h

theorem last?_cons_self (v : α) (h : last? name values = none) :
    last? name ((name, v) :: values) = some v := by
  rw [last?, h]
  exact if_pos rfl

theorem last?_cons_of_ne (v : α) (h : key ≠ name) :
    last? name ((key, v) :: values) = last? name values := by
  rw [last?, if_neg h]
  cases last? name values <;> rfl

/-- The value of a member with two names: that of the first, or else that of the second. -/
def either? (wire own : String) (values : List (String × α)) : Option α :=
  (last? wire values).or (last? own values)

end Json

open Json (last? either?)

/-! ### Reading a member -/

/-- Where a value is looked up does not depend on the name that it is reported under. -/
theorem Members.map_find? (wire own : String) (values : List (String × Json)) :
    (Members.find? wire own values).map Prod.snd = either? wire own values := by
  unfold Members.find? either?
  cases last? wire values with
  | some v => rfl
  | none => cases last? own values <;> rfl

/-- What there is for an optional member is what a document has for it. -/
def Schema.Fills (schema : Schema) (found : Option Json) : Slot schema.Item → Prop
  | .absent => found = none
  | .null => found = some .null
  | .given x => ∃ v, found = some v ∧ v ≠ .null ∧ schema.read v = .ok x

theorem Members.read_required_eq_ok {wire own : String} {schema : Schema} {rest : Members}
    {values : List (String × Json)} {x : schema.Item} {row : rest.Row} :
    (Members.required wire own schema rest).read values = .ok (x, row) ↔
      (∃ v, either? wire own values = some v ∧ schema.read v = .ok x) ∧ rest.read values = .ok row := by
  rw [Members.read, ← Members.map_find?]
  refine Checked.both_eq_ok.trans (and_congr_left fun _ => ?_)
  cases Members.find? wire own values with
  | none => simp
  | some found => simp [Checked.under_eq_ok]

theorem Members.read_optional_eq_ok {wire own : String} {schema : Schema} {rest : Members}
    {values : List (String × Json)} {slot : Slot schema.Item} {row : rest.Row} :
    (Members.optional wire own schema rest).read values = .ok (slot, row) ↔
      schema.Fills (either? wire own values) slot ∧ rest.read values = .ok row := by
  rw [Members.read, ← Members.map_find?]
  refine Checked.both_eq_ok.trans (and_congr_left fun _ => ?_)
  split
  · next hnone =>
    rw [hnone]
    cases slot <;> simp [Schema.Fills]
  · next name hnull =>
    rw [hnull]
    cases slot <;> simp [Schema.Fills]
  · next name v hne hfound =>
    have hv : v ≠ .null := hne
    rw [hfound]
    cases slot <;> simp [Schema.Fills, map_eq_ok, Checked.under_eq_ok, hv]

/-! ### Names -/

/-- The names that an object's members are looked up by. -/
def Members.names : Members → List String
  | .done => []
  | .required wire own _ rest => wire :: own :: rest.names
  | .optional wire own _ rest => wire :: own :: rest.names

mutual

/-- No two members of an object share a name, at any depth. -/
def Schema.Distinct : Schema → Prop
  | .text | .integer | .boolean => True
  | .array item => item.Distinct
  | .object members => members.Distinct

/-- Every member has names that those behind it do not have. -/
def Members.Distinct : Members → Prop
  | .done => True
  | .required wire own schema rest | .optional wire own schema rest =>
    (wire ∉ rest.names ∧ own ∉ rest.names) ∧ schema.Distinct ∧ rest.Distinct

end

mutual

instance Schema.decidableDistinct : ∀ schema : Schema, Decidable schema.Distinct
  | .text | .integer | .boolean => .isTrue trivial
  | .array item => Schema.decidableDistinct item
  | .object members => Members.decidableDistinct members

instance Members.decidableDistinct : ∀ members : Members, Decidable members.Distinct
  | .done => .isTrue trivial
  | .required wire own schema rest | .optional wire own schema rest =>
    have := Schema.decidableDistinct schema
    have := Members.decidableDistinct rest
    inferInstanceAs
      (Decidable ((wire ∉ rest.names ∧ own ∉ rest.names) ∧ schema.Distinct ∧ rest.Distinct))

end

/-- Only the names of members are written, in their order. -/
theorem Members.names_write_sublist : ∀ (members : Members) (row : members.Row),
    ((members.write row).map Prod.fst).Sublist members.names
  | .done, _ => .slnil
  | .required _ own _ rest, (_, row) => ((names_write_sublist rest row).cons own).cons_cons _
  | .optional wire own _ rest, (.absent, row) => ((names_write_sublist rest row).cons own).cons wire
  | .optional _ own _ rest, (.null, row) => ((names_write_sublist rest row).cons own).cons_cons _
  | .optional _ own _ rest, (.given _, row) => ((names_write_sublist rest row).cons own).cons_cons _

/-! ### Reading what is written -/

theorem Schema.write_ne_null (schema : Schema) (x : schema.Item) : schema.write x ≠ .null := by
  cases schema <;> intro h <;> cases h

section Row

variable {members : Members} {row : members.Row} {wire own : String} {values : List (String × Json)}

theorem Members.last?_write_of_notMem (h : wire ∉ members.names) :
    last? wire (members.write row) = none :=
  Json.last?_eq_none_of_notMem fun hmem => h ((names_write_sublist members row).subset hmem)

/-- Where all names mean what they mean behind a written member, that member is found, and the others are
as they were without it. -/
theorem Members.agree_cons {v : Json} (hwire : wire ∉ members.names)
    (h : ∀ name ∈ wire :: own :: members.names,
      last? name values = last? name ((wire, v) :: members.write row)) :
    either? wire own values = some v ∧
      ∀ name ∈ members.names, last? name values = last? name (members.write row) := by
  constructor
  · rw [either?, h wire List.mem_cons_self, Json.last?_cons_self v (last?_write_of_notMem hwire)]
    rfl
  · intro name hname
    have hne : wire ≠ name := fun heq => hwire (heq ▸ hname)
    rw [h name (List.mem_cons_of_mem _ (List.mem_cons_of_mem _ hname)), Json.last?_cons_of_ne v hne]

/-- Where all names mean what they mean without a member, that member is not found. -/
theorem Members.agree_skip (hwire : wire ∉ members.names) (hown : own ∉ members.names)
    (h : ∀ name ∈ wire :: own :: members.names, last? name values = last? name (members.write row)) :
    either? wire own values = none ∧
      ∀ name ∈ members.names, last? name values = last? name (members.write row) := by
  constructor
  · rw [either?, h wire List.mem_cons_self, h own (List.mem_cons_of_mem _ List.mem_cons_self),
      last?_write_of_notMem hwire, last?_write_of_notMem hown]
    rfl
  · intro name hname
    exact h name (List.mem_cons_of_mem _ (List.mem_cons_of_mem _ hname))

end Row

mutual

/-- A document is read back from what is written. -/
theorem Schema.read_write : ∀ (schema : Schema) (x : schema.Item), schema.Distinct →
    schema.read (schema.write x) = .ok x
  | .text, _, _ => rfl
  | .integer, _, _ => rfl
  | .boolean, _, _ => rfl
  | .array item, _, h => Checked.items_map_eq_ok fun x _ => Schema.read_write item x h
  | .object members, row, h => Members.read_of_agree members row h fun _ _ => rfl

/-- A row is read back from any values in which the members' names mean what they mean in what is
written. -/
theorem Members.read_of_agree : ∀ (members : Members) (row : members.Row)
    {values : List (String × Json)}, members.Distinct →
    (∀ name ∈ members.names, last? name values = last? name (members.write row)) →
    members.read values = .ok row
  | .done, _, _, _, _ => rfl
  | .required wire own schema rest, (x, row), _, ⟨⟨hwire, _⟩, hschema, hrest⟩, h => by
    obtain ⟨hfound, hmore⟩ := Members.agree_cons hwire h
    have hx := Schema.read_write schema x hschema
    have hrow := Members.read_of_agree rest row hrest hmore
    exact Members.read_required_eq_ok.mpr ⟨⟨_, hfound, hx⟩, hrow⟩
  | .optional wire own schema rest, (.absent, row), _, ⟨⟨hwire, hown⟩, _, hrest⟩, h => by
    obtain ⟨hfound, hmore⟩ := Members.agree_skip hwire hown h
    have hrow := Members.read_of_agree rest row hrest hmore
    exact Members.read_optional_eq_ok.mpr ⟨hfound, hrow⟩
  | .optional wire own schema rest, (.null, row), _, ⟨⟨hwire, _⟩, _, hrest⟩, h => by
    obtain ⟨hfound, hmore⟩ := Members.agree_cons hwire h
    have hrow := Members.read_of_agree rest row hrest hmore
    exact Members.read_optional_eq_ok.mpr ⟨hfound, hrow⟩
  | .optional wire own schema rest, (.given x, row), _, ⟨⟨hwire, _⟩, hschema, hrest⟩, h => by
    obtain ⟨hfound, hmore⟩ := Members.agree_cons hwire h
    have hx := Schema.read_write schema x hschema
    have hrow := Members.read_of_agree rest row hrest hmore
    exact Members.read_optional_eq_ok.mpr
      ⟨⟨_, hfound, Schema.write_ne_null schema x, hx⟩, hrow⟩

end

/-! ### The leaves and the depth of what is written -/

mutual

/-- The integers in a document. -/
def Schema.ints : (schema : Schema) → schema.Item → List Int
  | .text, _ => []
  | .integer, n => [n]
  | .boolean, _ => []
  | .array item, xs => List.flatMap item.ints xs
  | .object members, row => members.ints row

/-- The integers in a row of members. -/
def Members.ints : (members : Members) → members.Row → List Int
  | .done, _ => []
  | .required _ _ schema rest, (x, row) => schema.ints x ++ rest.ints row
  | .optional _ _ _ rest, (.absent, row) => rest.ints row
  | .optional _ _ _ rest, (.null, row) => rest.ints row
  | .optional _ _ schema rest, (.given x, row) => schema.ints x ++ rest.ints row

end

/-- The property holds of every leaf that is no number. -/
structure Json.Plain (p : Json → Prop) : Prop where
  null : p .null
  bool : ∀ b, p (.bool b)
  str : ∀ s, p (.str s)

section Every

variable {p : Json → Prop} (hp : Json.Plain p)

include hp

mutual

/-- A property of such leaves holds of all leaves of what is written when it holds of the document's
integers: there are no others. -/
theorem Schema.every_write_iff : ∀ (schema : Schema) (x : schema.Item),
    (schema.write x).Every p ↔ ∀ n ∈ schema.ints x, p (.int n)
  | .text, s => iff_of_true (hp.str s) (List.forall_mem_nil _)
  | .integer, (n : Int) => by
    show p (.int n) ↔ ∀ m ∈ [n], p (.int m)
    rw [List.forall_mem_singleton]
  | .boolean, b => iff_of_true (hp.bool b) (List.forall_mem_nil _)
  | .array item, (xs : List item.Item) => by
    have hitems : (∀ x ∈ xs, (item.write x).Every p) ↔ ∀ x ∈ xs, ∀ n ∈ item.ints x, p (.int n) :=
      forall₂_congr fun x _ => Schema.every_write_iff item x
    show Json.EveryItem p (xs.map item.write) ↔ ∀ n ∈ xs.flatMap item.ints, p (.int n)
    rw [Json.everyItem_iff, List.forall_mem_map, hitems, List.forall_mem_flatMap]
  | .object members, row => Members.everyMember_write_iff members row

theorem Members.everyMember_write_iff : ∀ (members : Members) (row : members.Row),
    Json.EveryMember p (members.write row) ↔ ∀ n ∈ members.ints row, p (.int n)
  | .done, _ => iff_of_true trivial (List.forall_mem_nil _)
  | .required _ _ schema rest, (x, row) =>
    (and_congr (Schema.every_write_iff schema x) (Members.everyMember_write_iff rest row)).trans
      List.forall_mem_append.symm
  | .optional _ _ _ rest, (.absent, row) => Members.everyMember_write_iff rest row
  | .optional _ _ _ rest, (.null, row) =>
    (and_iff_right hp.null).trans (Members.everyMember_write_iff rest row)
  | .optional _ _ schema rest, (.given x, row) =>
    (and_congr (Schema.every_write_iff schema x) (Members.everyMember_write_iff rest row)).trans
      List.forall_mem_append.symm

end

end Every

mutual

/-- How deep the documents of a shape can be. -/
def Schema.depth : Schema → Nat
  | .text | .integer | .boolean => 0
  | .array item => item.depth + 1
  | .object members => members.depth + 1

/-- How deep the values of a row can be. -/
def Members.depth : Members → Nat
  | .done => 0
  | .required _ _ schema rest | .optional _ _ schema rest => max schema.depth rest.depth

end

mutual

/-- What is written is no deeper than its shape. -/
theorem Schema.depth_write_le : ∀ (schema : Schema) (x : schema.Item),
    (schema.write x).depth ≤ schema.depth
  | .text, _ => Nat.zero_le _
  | .integer, _ => Nat.zero_le _
  | .boolean, _ => Nat.zero_le _
  | .array item, (xs : List item.Item) => by
    have hitems : Json.itemDepth (xs.map item.write) ≤ item.depth := by
      rw [Json.itemDepth_le_iff, List.forall_mem_map]
      exact fun x _ => Schema.depth_write_le item x
    exact Nat.le_trans (Json.depth_arr_le _) (Nat.succ_le_succ hitems)
  | .object members, row =>
    Nat.le_trans (Json.depth_obj_le _) (Nat.succ_le_succ (Members.memberDepth_write_le members row))

theorem Members.memberDepth_write_le : ∀ (members : Members) (row : members.Row),
    Json.memberDepth (members.write row) ≤ members.depth
  | .done, _ => Nat.zero_le _
  | .required _ _ schema rest, (x, row) =>
    Json.memberDepth_cons_le _ (Schema.depth_write_le schema x) (Members.memberDepth_write_le rest row)
  | .optional _ _ _ rest, (.absent, row) =>
    Nat.le_trans (Members.memberDepth_write_le rest row) (Nat.le_max_right _ _)
  | .optional _ _ _ rest, (.null, row) =>
    Json.memberDepth_cons_le _ (Nat.zero_le _) (Members.memberDepth_write_le rest row)
  | .optional _ _ schema rest, (.given x, row) =>
    Json.memberDepth_cons_le _ (Schema.depth_write_le schema x) (Members.memberDepth_write_le rest row)

end

end DeviceRelay
