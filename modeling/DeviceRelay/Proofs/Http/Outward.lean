import DeviceRelay.Http.Outward
import DeviceRelay.Proofs.Message.Record

/-!
# What leaves as it is

Members of reserved names never leave. A value without such a name leaves whole, and one with such a name never does.

* `Http.Outward.ofJson_eq_self_iff` — any value.
* `Message.ofJson_record_eq_self_iff` — the record of a message: its own names are not reserved, so it is up to the
  metrics.
-/

namespace DeviceRelay

namespace Http.Outward

theorem ofItems_eq_map (items : List Json) : ofItems items = items.map ofJson := by
  induction items with
  | nil => rfl
  | cons item rest ih => rw [ofItems, ih, List.map_cons]

theorem ofMembers_eq_map (members : List (String × Json)) :
    ofMembers members =
      (members.filter fun member => leaves member.1).map fun member => (member.1, ofJson member.2) := by
  induction members with
  | nil => rfl
  | cons member rest ih =>
    obtain ⟨name, v⟩ := member
    rw [ofMembers, ih, List.filter_cons]
    by_cases h : leaves name = true
    · simp [h]
    · simp [h]

theorem map_eq_self_iff {α : Type} {f : α → α} {as : List α} : as.map f = as ↔ ∀ a ∈ as, f a = a := by
  have h : as.map f = as.map id ↔ ∀ a ∈ as, f a = id a := List.map_inj_left
  rwa [List.map_id] at h

/-- A list is what some function makes of some of its elements only if these are all, and each is kept. -/
theorem map_filter_eq_self_iff {α : Type} {p : α → Bool} {f : α → α} {as : List α} :
    (as.filter p).map f = as ↔ ∀ a ∈ as, p a = true ∧ f a = a := by
  constructor
  · intro h
    have hlength : (as.filter p).length = as.length := by
      rw [← List.length_map f, h]
    have hall : ∀ a ∈ as, p a = true := List.length_filter_eq_length_iff.mp hlength
    rw [List.filter_eq_self.mpr hall] at h
    exact fun a ha => ⟨hall a ha, map_eq_self_iff.mp h a ha⟩
  · intro h
    rw [List.filter_eq_self.mpr fun a ha => (h a ha).1]
    exact map_eq_self_iff.mpr fun a ha => (h a ha).2

/-- A value leaves as it is exactly if no name inside is reserved. -/
theorem ofJson_eq_self_iff (j : Json) : ofJson j = j ↔ j.EveryName fun name => leaves name = true := by
  induction j using Json.induction with
  | arr items ih =>
    rw [ofJson, ofItems_eq_map, Json.everyName_arr, Json.arr.injEq, map_eq_self_iff]
    exact forall₂_congr ih
  | obj members ih =>
    rw [ofJson, ofMembers_eq_map, Json.everyName_obj, Json.obj.injEq, map_filter_eq_self_iff]
    refine forall₂_congr fun member hmember => and_congr_right fun _ => ?_
    rw [← ih member hmember, Prod.ext_iff]
    exact and_iff_right rfl
  | _ => exact iff_of_true rfl trivial

end Http.Outward

/-! ### The record of a message -/

namespace Message

variable {α : Type} {p : String → Prop} {f : α → Json}

theorem everyName_part (h : ∀ a, (f a).EveryName p) (a : Option α) : (part f a).EveryName p := by
  cases a with
  | none => trivial
  | some a => exact h a

theorem everyName_listPart (h : ∀ a, (f a).EveryName p) (as : Option (List α)) : (listPart f as).EveryName p :=
  everyName_part (fun _ => Json.everyName_arr.mpr (List.forall_mem_map.mpr fun a _ => h a)) as

end Message

/-- The name is not reserved. -/
def Http.Outward.Leaves (name : String) : Prop := leaves name = true

section Record

open Http.Outward

theorem Keystore.Store.everyName_dump (s : Store) : s.dump.EveryName Leaves := by
  simp +decide [dump, Json.EveryName, Json.EveryNameMember, Json.everyName_ofText?, Json.everyName_ofInt?, Leaves]

theorem Keystore.Item.everyName_dump (i : Item) : i.dump.EveryName Leaves := by
  simp +decide [dump, SubjectName.dump, Json.EveryName, Json.everyNameItem_iff, Json.EveryNameMember,
    Json.everyName_ofText?, Json.everyName_ofInt?, Leaves]

theorem Keystore.SigningRequest.everyName_dump (r : SigningRequest) : r.dump.EveryName Leaves := by
  simp +decide [dump, Json.EveryName, Json.EveryNameMember, Leaves]

theorem Inventory.Item.everyName_dump (i : Item) : i.dump.EveryName Leaves := by
  simp +decide [dump, Json.EveryName, Json.EveryNameMember, Json.everyName_ofText?, Leaves]

theorem Inventory.Bundle.everyName_dump (b : Bundle) : b.dump.EveryName Leaves := by
  simp +decide [dump, Json.EveryName, Json.EveryNameMember, Json.everyName_ofText?, Json.everyName_ofBool?, Leaves]

theorem Inventory.Container.everyName_dump (c : Container) : c.dump.EveryName Leaves := by
  simp +decide [dump, Json.EveryName, Json.EveryNameMember, Json.everyName_ofText?, Leaves]

theorem Inventory.Package.everyName_dump (p : Package) : p.dump.EveryName Leaves := by
  simp +decide [dump, Json.EveryName, Json.EveryNameMember, Json.everyName_ofText?, Leaves]

theorem CommandResult.everyName_dump (r : CommandResult) : r.dump.EveryName Leaves := by
  simp +decide [dump, Json.EveryName, Json.EveryNameMember, Json.everyName_ofText?, Json.everyName_ofInt?, Leaves]

theorem ReplyContent.everyNameMember (c : ReplyContent) : Json.EveryNameMember Leaves (Message.contentMembers c) := by
  cases c with
  | keystore c =>
    simp +decide [Message.contentMembers, Json.EveryNameMember, Leaves,
      Message.everyName_listPart Keystore.Store.everyName_dump, Message.everyName_listPart Keystore.Item.everyName_dump,
      Message.everyName_part Keystore.Item.everyName_dump, Message.everyName_part Keystore.SigningRequest.everyName_dump]
  | inventory c =>
    simp +decide [Message.contentMembers, Json.EveryNameMember, Leaves,
      Message.everyName_listPart Inventory.Item.everyName_dump,
      Message.everyName_listPart Inventory.Bundle.everyName_dump,
      Message.everyName_listPart Inventory.Container.everyName_dump,
      Message.everyName_listPart Inventory.Package.everyName_dump]
  | command result =>
    simp +decide [Message.contentMembers, Json.EveryNameMember, Leaves,
      Message.everyName_part CommandResult.everyName_dump]

theorem Message.everyNameMember_headMembers (h : MessageHead) : Json.EveryNameMember Leaves (headMembers h) := by
  simp +decide [headMembers, Json.EveryNameMember, Json.EveryName, Json.everyName_ofText?, Leaves]

theorem ReplyChannel.everyName_dump (c : ReplyChannel) : c.dump.EveryName Leaves := by
  simp +decide [dump, Json.EveryName, Json.everyNameItem_iff, Json.EveryNameMember, Json.everyName_ofText?, Leaves]

theorem LifecycleChannel.everyName_dump (c : LifecycleChannel) : c.dump.EveryName Leaves := by
  simp +decide [dump, Json.EveryName, Json.EveryNameMember, Leaves]

/-- The record of a message leaves as it is exactly if its metrics have no reserved names. -/
theorem Message.ofJson_record_eq_self_iff (m : Message) :
    ofJson m.record = m.record ↔ m.metricsValue.Every (Value.NamesSatisfy Leaves) := by
  rw [ofJson_eq_self_iff, ← Value.everyName_form_iff]
  show m.record.EveryName Leaves ↔ _
  cases m with
  | reply head channel code remarks content =>
    simp +decide [record, Json.EveryName, Json.everyNameMember_append, Json.EveryNameMember,
      everyNameMember_headMembers, channel.everyName_dump, content.everyNameMember, Json.everyName_ofText?,
      metricsValue, metrics, Leaves]
  | notification head channel metrics body =>
    simp +decide [record, Json.EveryName, Json.everyNameMember_append, Json.EveryNameMember,
      everyNameMember_headMembers, channel.everyName_dump,
      metricsValue, Message.metrics, Leaves]
    intro _
    exact everyName_part (f := fun b => .str (Hex.encode b)) (fun b => (trivial : (Json.str _).EveryName Leaves)) _

end Record

end DeviceRelay
