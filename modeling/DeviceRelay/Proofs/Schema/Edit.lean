import DeviceRelay.Proofs.Schema.Member
import Mathlib.Logic.Relation

/-!
# Members that do not count

A device may say more than a shape knows, and it may say of an optional member that there is nothing to say. An edit
puts one such member into an object, wherever the object stands in a value:

    { …, … }  ──▶  { …, unknown : any value, … }
    { …, … }  ──▶  { …, optional : null, … }        if the object says nothing else of that member

`Schema.settled` reads a value and makes no difference between a member that is null and one that is missing.

* `Edit.settled_eq` — one edit changes nothing of it, neither the document nor the problems,
* `Edit.settled_eq_of_eqvGen` — nor do any number of edits, made and taken back.
-/

namespace DeviceRelay

open Json (last?)

/-! ### Places and edits -/

/-- A place in a value: one where a shape applies, or one that no shape knows. -/
inductive Place where
  | shaped (schema : Schema)
  | unknown

namespace Place

/-- The place of the items of an array. -/
def item : Place → Place
  | .shaped (.array item) => .shaped item
  | _ => .unknown

/-- The members that are known at a place. -/
def members : Place → List Member
  | .shaped (.object members) => members.toList
  | _ => []

/-- The place of the value under a name in an object. -/
def member (place : Place) (name : String) : Place :=
  match place.members.find? fun m => decide (name ∈ m.names) with
  | some m => .shaped m.schema
  | none => .unknown

/-- The value of a known member stands where the shape of the member applies. -/
theorem member_eq {members : Members} (h : members.Distinct) {m : Member} (hm : m ∈ members.toList) {name : String}
    (hname : name ∈ m.names) : member (.shaped (.object members)) name = .shaped m.schema := by
  show (match members.toList.find? _ with | some m => shaped m.schema | none => .unknown) = _
  cases hfound : members.toList.find? fun m => decide (name ∈ m.names) with
  | none =>
    rw [List.find?_eq_none] at hfound
    exact absurd (decide_eq_true hname) (hfound m hm)
  | some m' =>
    have hname' : name ∈ m'.names := of_decide_eq_true (List.find?_some hfound :)
    obtain rfl := Members.eq_of_mem_names h (List.mem_of_find?_eq_some hfound) hm hname' hname
    rfl

end Place

/-- A value gets one more member that does not count, in one of its objects. -/
inductive Edit : Place → Json → Json → Prop
  /-- A member under a name that the place of the object does not know. -/
  | unknown {place : Place} {before after : List (String × Json)} {name : String} {v : Json}
    (hname : ∀ m ∈ place.members, name ∉ m.names) :
    Edit place (.obj (before ++ after)) (.obj (before ++ (name, v) :: after))
  /-- An optional member that is null, and that the object gives no value under either name. -/
  | null {place : Place} {before after : List (String × Json)} {name : String} {m : Member}
    (hm : m ∈ place.members) (hoptional : m.isOptional = true) (hname : name ∈ m.names)
    (hnull : ∀ p ∈ before ++ after, p.1 ∈ m.names → p.2 = .null) :
    Edit place (.obj (before ++ after)) (.obj (before ++ (name, .null) :: after))
  /-- An edit in an item. -/
  | item {place : Place} {before after : List Json} {v v' : Json} (h : Edit place.item v v') :
    Edit place (.arr (before ++ v :: after)) (.arr (before ++ v' :: after))
  /-- An edit in a member's value. -/
  | member {place : Place} {before after : List (String × Json)} {name : String} {v v' : Json}
    (h : Edit (place.member name) v v') :
    Edit place (.obj (before ++ (name, v) :: after)) (.obj (before ++ (name, v') :: after))

/-- Only arrays and objects are edited. -/
theorem Edit.ne_null {place : Place} {v v' : Json} (h : Edit place v v') : v ≠ .null ∧ v' ≠ .null := by
  cases h <;> exact ⟨Json.noConfusion, Json.noConfusion⟩

/-! ### Null as missing -/

/-- Nothing, in place of null. -/
def Slot.settle {α : Type} (f : α → α) : Slot α → Slot α
  | .absent | .null => .absent
  | .given a => .given (f a)

mutual

/-- The document without its nulls. -/
def Schema.settle : (schema : Schema) → schema.Item → schema.Item
  | .text, s => s
  | .integer, n => n
  | .boolean, b => b
  | .array item, xs => List.map item.settle xs
  | .object members, row => members.settle row

/-- The members of a document without its nulls. -/
def Members.settle : (members : Members) → members.Row → members.Row
  | .done, () => ()
  | .required _ _ schema rest, (x, row) => (schema.settle x, rest.settle row)
  | .optional _ _ schema rest, (slot, row) => (slot.settle schema.settle, rest.settle row)

end

/-- The document that a value is read as, without its nulls. -/
def Schema.settled (schema : Schema) (v : Json) : Checked schema.Item := (schema.read v).map schema.settle

/-- The members that an object is read as, without its nulls. -/
def Members.settled (members : Members) (values : List (String × Json)) : Checked members.Row :=
  (members.read values).map members.settle

/-- What an object has for a member, without its nulls. -/
def Member.settled (m : Member) (values : List (String × Json)) : Checked (Slot m.schema.Item) :=
  (m.read values).map (Slot.settle m.schema.settle)

section Row

variable {wire own : String} {schema : Schema} {rest : Members} {values : List (String × Json)}

theorem Members.settled_required :
    ((Members.required wire own schema rest).settled values).map (fun p => (Slot.given p.1, p.2)) =
      Checked.both (Member.settled ⟨wire, own, schema, false⟩ values) (rest.settled values) := by
  rw [Member.settled, settled, settled, ← Checked.both_map, ← read_required, map_map, map_map]
  rfl

theorem Members.settled_optional : (Members.optional wire own schema rest).settled values =
    Checked.both (Member.settled ⟨wire, own, schema, true⟩ values) (rest.settled values) := by
  rw [Member.settled, settled, settled, ← Checked.both_map, ← read_optional]
  rfl

end Row

/-- What an object has for its members decides what it is read as. -/
theorem Members.settled_congr : ∀ {members : Members} {values values' : List (String × Json)},
    (∀ m ∈ members.toList, m.settled values = m.settled values') →
    members.settled values = members.settled values'
  | .done, _, _, _ => rfl
  | .required wire own schema rest, values, values', h => by
    obtain ⟨hfield, hrest⟩ := List.forall_mem_cons.mp h
    have hboth := congrArg₂ Checked.both hfield (settled_congr hrest)
    rw [← settled_required, ← settled_required] at hboth
    exact map_injective (fun p q hpq => Prod.ext (Slot.given.inj (Prod.mk.inj hpq).1) (Prod.mk.inj hpq).2) hboth
  | .optional wire own schema rest, values, values', h => by
    obtain ⟨hfield, hrest⟩ := List.forall_mem_cons.mp h
    rw [settled_optional, settled_optional, hfield, settled_congr hrest]

/-! ### Looking up behind an edit -/

namespace Json

variable {α : Type} {name key : String} {before after : List (String × α)}

theorem last?_append (xs ys : List (String × α)) : last? name (xs ++ ys) = (last? name ys).or (last? name xs) := by
  induction xs with
  | nil => exact Option.or_none.symm
  | cons x xs ih =>
    obtain ⟨key, v⟩ := x
    rw [List.cons_append, last?, ih, last?]
    cases last? name ys <;> rfl

/-- A member of another name is not looked at. -/
theorem last?_insert (v : α) (h : key ≠ name) :
    last? name (before ++ (key, v) :: after) = last? name (before ++ after) := by
  rw [last?_append, last?_append, last?_cons_of_ne v h]

/-- Where a member has another value, this value is found or what was found before. -/
theorem last?_replace (name key : String) (before after : List (String × α)) (v v' : α) :
    last? name (before ++ (key, v) :: after) = last? name (before ++ (key, v') :: after) ∨
      key = name ∧ last? name (before ++ (key, v) :: after) = some v ∧
        last? name (before ++ (key, v') :: after) = some v' := by
  rw [last?_append, last?_append, last?, last?]
  cases last? name after with
  | some found => exact Or.inl rfl
  | none =>
    by_cases h : key = name
    · exact Or.inr ⟨h, by simp [h]⟩
    · simp [h]

end Json

section Find

variable {m : Member} {name : String} {before after : List (String × Json)}

/-- A member of an unknown name is not found. -/
theorem Member.settled_insert (v : Json) (hname : name ∉ m.names) :
    m.settled (before ++ after) = m.settled (before ++ (name, v) :: after) := by
  rw [mem_names_iff, not_or] at hname
  unfold settled read Members.find?
  rw [Json.last?_insert v hname.1, Json.last?_insert v hname.2]

/-- A member that is nowhere more than null counts as missing. -/
theorem Member.settled_of_null {values : List (String × Json)} (hoptional : m.isOptional = true)
    (hnull : ∀ p ∈ values, p.1 ∈ m.names → p.2 = .null) : m.settled values = .ok .absent := by
  rcases m.missing_or_null_or_given values with hnone | ⟨-, name, hgiven⟩ | ⟨name, v, hgiven, hne⟩
  · rw [settled, read_of_missing hnone, if_pos hoptional]
    rfl
  · rw [settled, read_of_null hoptional hgiven]
    rfl
  · have hv : v = .null := hnull (name, v) (mem_of_given hgiven) (mem_names_of_given hgiven)
    exact absurd hv (hne hoptional)

/-- Where a member has another value, this value is found or what was found before. -/
theorem Member.find?_replace (m : Member) (name : String) (before after : List (String × Json)) (v v' : Json) :
    Members.find? m.wire m.own (before ++ (name, v) :: after) =
        Members.find? m.wire m.own (before ++ (name, v') :: after) ∨
      name ∈ m.names ∧ Members.find? m.wire m.own (before ++ (name, v) :: after) = some (name, v) ∧
        Members.find? m.wire m.own (before ++ (name, v') :: after) = some (name, v') := by
  unfold Members.find?
  rcases Json.last?_replace m.wire name before after v v' with hwire | ⟨rfl, hwire, hwire'⟩
  · rw [hwire]
    cases last? m.wire (before ++ (name, v') :: after) with
    | some found => exact Or.inl rfl
    | none =>
      rcases Json.last?_replace m.own name before after v v' with hown | ⟨rfl, hown, hown'⟩
      · exact Or.inl (congrArg (Option.map _) hown)
      · refine Or.inr ⟨mem_names_iff.mpr (Or.inr rfl), ?_, ?_⟩
        · rw [hown]
          rfl
        · rw [hown']
          rfl
  · rw [hwire, hwire']
    exact Or.inr ⟨mem_names_iff.mpr (Or.inl rfl), rfl, rfl⟩

theorem Member.settled_of_given {values : List (String × Json)} {v : Json} (hgiven : m.Given values name v)
    (hv : v ≠ .null) : m.settled values = (Checked.under (.field name) (m.schema.settled v)).map .given := by
  rw [settled, read_of_given hgiven fun _ => hv, Schema.settled, ← Checked.under_map, map_map, map_map]
  rfl

/-- A member is read alike if it gets a value that is read alike. -/
theorem Member.settled_replace {v v' : Json} (hv : v ≠ .null) (hv' : v' ≠ .null)
    (h : name ∈ m.names → m.schema.settled v = m.schema.settled v') :
    m.settled (before ++ (name, v) :: after) = m.settled (before ++ (name, v') :: after) := by
  rcases m.find?_replace name before after v v' with heq | ⟨hname, hfound, hfound'⟩
  · rw [settled, settled, read, read, heq]
  · rw [settled_of_given (given_iff.mpr hfound) hv, settled_of_given (given_iff.mpr hfound') hv', h hname]

end Find

/-! ### Edits change nothing -/

/-- What a value is read as does not change with an edit. -/
theorem Edit.settled_eq {place : Place} {v v' : Json} (h : Edit place v v') :
    ∀ schema : Schema, place = .shaped schema → schema.Distinct → schema.settled v = schema.settled v' := by
  -- the place changes on the way down, so the shape is generalised; of another shape nothing is read before or after
  induction h with
  | @unknown place before after name v hname =>
    rintro schema rfl hdistinct
    cases schema with
    | object members =>
      refine Members.settled_congr fun m hm => ?_
      exact Member.settled_insert v (hname m hm)
    | _ => rfl
  | @null place before after name m hm hoptional hname hnull =>
    rintro schema rfl hdistinct
    cases schema with
    | object members =>
      refine Members.settled_congr fun m' hm' => ?_
      by_cases hname' : name ∈ m'.names
      · -- the name is that of the optional member, which is nothing but null before and after
        obtain rfl := Members.eq_of_mem_names hdistinct hm hm' hname hname'
        rw [Member.settled_of_null hoptional hnull, Member.settled_of_null hoptional]
        intro p hp
        simp only [List.mem_append, List.mem_cons] at hp hnull
        rcases hp with hp | rfl | hp
        · exact hnull p (Or.inl hp)
        · exact fun _ => rfl
        · exact hnull p (Or.inr hp)
      · exact Member.settled_insert .null hname'
    | _ => rfl
  | @item place before after v v' h ih =>
    rintro schema rfl hdistinct
    cases schema with
    | array item =>
      have hv := ih item rfl hdistinct
      show (Checked.items item.read 0 _).map (List.map item.settle) =
        (Checked.items item.read 0 _).map (List.map item.settle)
      rw [Checked.items_map, Checked.items_map]
      refine Checked.items_congr ?_
      rw [List.map_append, List.map_append, List.map_cons, List.map_cons]
      exact congrArg (_ ++ · :: _) hv
    | _ => rfl
  | @member place before after name v v' h ih =>
    rintro schema rfl hdistinct
    cases schema with
    | object members =>
      refine Members.settled_congr fun m hm => ?_
      refine Member.settled_replace h.ne_null.1 h.ne_null.2 fun hname => ?_
      exact ih m.schema (Place.member_eq hdistinct hm hname) (Members.distinct_of_mem hdistinct m hm)
    | _ => rfl

/-- What a value is read as does not change with any number of edits, made and taken back. -/
theorem Edit.settled_eq_of_eqvGen {schema : Schema} (hdistinct : schema.Distinct) {v v' : Json}
    (h : Relation.EqvGen (Edit (.shaped schema)) v v') : schema.settled v = schema.settled v' := by
  induction h with
  | rel v v' h => exact h.settled_eq schema rfl hdistinct
  | refl v => rfl
  | symm v v' _ ih => exact ih.symm
  | trans v v' v'' _ _ ih ih' => exact ih.trans ih'

end DeviceRelay
