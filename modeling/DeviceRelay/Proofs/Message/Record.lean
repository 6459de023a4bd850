import DeviceRelay.Proofs.Translator
import DeviceRelay.Proofs.Value.Recorded

/-!
# Messages as records

The record of a message exists as far as its metrics have room in it, and then it is a function of the message
(`Message.record`). Of what it holds only the metrics and the integers of the content can stand in the way of
writing it out.

* `Message.dump_eq_ok_iff` — which messages have a record.
* `Message.every_record_iff` — the leaves of a record.
* `Message.isWritable_record_iff` — which records may be written out.
-/

namespace DeviceRelay

namespace Message

/-- The metrics of a message. -/
def metrics : Message → Dictionary Value
  | .reply _ _ _ remarks _ => remarks.metrics
  | .notification _ _ metrics _ => metrics

/-- The metrics as one value. -/
def metricsValue (m : Message) : Value := .dict m.metrics.entries

/-- The record of a message. -/
def record : Message → Json
  | .reply head channel code remarks content =>
    .obj (headMembers head ++ [("channel", channel.dump), ("response_code", .str code.text),
      ("payload", .obj ([("exception_message", .ofText? remarks.exceptionMessage),
        ("exception_stack", .ofText? remarks.exceptionStack),
        ("metrics", (Value.dict remarks.metrics.entries).form)] ++ contentMembers content))])
  | .notification head channel metrics body =>
    .obj (headMembers head ++ [("channel", channel.dump),
      ("payload", .obj [("metrics", (Value.dict metrics.entries).form),
        ("body", part (fun b => .str (Hex.encode b)) (body.filter fun b => !b.isEmpty))])])

/-- A message has a record exactly if its metrics have room in it. -/
theorem dump_eq_ok_iff {m : Message} {j : Json} :
    m.dump = .ok j ↔
      (m.metricsValue.levels ≤ Value.recordLevels + 1 ∧ m.metricsValue.HasForm) ∧ m.record = j := by
  cases m with
  | reply head channel code remarks content =>
    rw [dump, remarkMembers, map_map]
    exact map_eq_ok_iff_of fun metrics => Value.recordedDictionary?_map_hexed_eq_ok_iff
  | notification head channel metrics body =>
    rw [dump]
    exact map_eq_ok_iff_of fun metrics => Value.recordedDictionary?_map_hexed_eq_ok_iff

end Message

/-! ### The integers of a content -/

/-- The integers in what a device says about its keystores. -/
def KeystoreContent.ints (c : KeystoreContent) : List Int :=
  (c.stores.getD []).flatMap (fun s => s.size.toList) ++ (c.items.getD []).flatMap (fun i => i.size.toList) ++
    c.item.toList.flatMap fun i => i.size.toList

/-- The integers in what a device says about the software on it. -/
def InventoryContent.ints (c : InventoryContent) : List Int := (c.bundles.getD []).map Inventory.Bundle.id

/-- The integers in the content of a reply. -/
def ReplyContent.ints : ReplyContent → List Int
  | .keystore content => content.ints
  | .inventory content => content.ints
  | .command result => result.toList.flatMap fun r => r.exitCode.toList

/-- The integers in the content of a message. -/
def Message.ints (m : Message) : List Int := m.content?.toList.flatMap ReplyContent.ints

section Every

variable {p : Json → Prop} (hp : Json.Plain p)

include hp

theorem Message.every_part_iff {α : Type} (f : α → Json) (a : Option α) :
    (part f a).Every p ↔ ∀ b ∈ a, (f b).Every p := by
  cases a with
  | none => simp [part, Json.Every, hp.null]
  | some a => simp [part]

theorem Message.every_listPart_iff {α : Type} (f : α → Json) (as : Option (List α)) :
    (listPart f as).Every p ↔ ∀ a ∈ as.getD [], (f a).Every p := by
  rw [listPart, every_part_iff hp]
  cases as with
  | none => simp
  | some as => simp [Json.every_arr]

theorem Keystore.Store.every_dump_iff (s : Store) : s.dump.Every p ↔ ∀ n ∈ s.size, p (.int n) := by
  simp [dump, Json.Every, Json.everyMember_iff, Json.every_ofText? hp, Json.every_ofInt?_iff hp, hp.str]

theorem Keystore.Item.every_dump_iff (i : Item) : i.dump.Every p ↔ ∀ n ∈ i.size, p (.int n) := by
  simp [dump, Json.Every, Json.everyMember_iff, Json.everyItem_iff, SubjectName.dump, Json.every_ofText? hp,
    Json.every_ofInt?_iff hp, hp.str]

theorem Inventory.Bundle.every_dump_iff (b : Bundle) : b.dump.Every p ↔ p (.int b.id) := by
  simp [dump, Json.Every, Json.everyMember_iff, Json.every_ofText? hp, Json.every_ofBool? hp, hp.str]

theorem CommandResult.every_dump_iff (r : CommandResult) : r.dump.Every p ↔ ∀ n ∈ r.exitCode, p (.int n) := by
  simp [dump, Json.Every, Json.everyMember_iff, Json.every_ofText? hp, Json.every_ofInt?_iff hp, hp.bool]

/-- The content of a reply adds no leaves but texts, truth values, nulls and its integers. -/
theorem ReplyContent.everyMember_iff (c : ReplyContent) :
    Json.EveryMember p (Message.contentMembers c) ↔ ∀ n ∈ c.ints, p (.int n) := by
  rw [Json.everyMember_iff]
  cases c with
  | keystore c =>
    simp only [Message.contentMembers, List.forall_mem_cons, Message.every_part_iff hp,
      Message.every_listPart_iff hp, Keystore.Store.every_dump_iff hp, Keystore.Item.every_dump_iff hp, ints,
      KeystoreContent.ints, List.forall_mem_append, List.forall_mem_flatMap]
    simp [Keystore.SigningRequest.dump, Json.Every, Json.everyMember_iff, hp.str, and_assoc]
  | inventory c =>
    simp [Message.contentMembers, Message.every_listPart_iff hp, Inventory.Bundle.every_dump_iff hp,
      Inventory.Item.dump, Inventory.Container.dump, Inventory.Package.dump, Json.every_ofText? hp,
      Json.everyMember_iff, Json.Every, hp.str, ints, InventoryContent.ints]
  | command result =>
    simp only [Message.contentMembers, List.forall_mem_singleton, Message.every_part_iff hp,
      CommandResult.every_dump_iff hp, ints, List.forall_mem_flatMap]
    simp

theorem Message.everyMember_headMembers (h : MessageHead) : Json.EveryMember p (headMembers h) := by
  simp [headMembers, Json.everyMember_iff, Json.Every, Json.every_ofText? hp, hp.str]

theorem ReplyChannel.every_dump (c : ReplyChannel) : c.dump.Every p := by
  simp [dump, Json.everyMember_iff, Json.everyItem_iff, Json.Every, Json.every_ofText? hp, hp.str]

theorem LifecycleChannel.every_dump (c : LifecycleChannel) : c.dump.Every p := by
  simp [dump, Json.everyMember_iff, Json.Every, hp.str]

/-- What a record holds beside its metrics and the integers of its content has the properties of leaves that are no
numbers. -/
theorem Message.every_record_iff (m : Message) :
    m.record.Every p ↔ m.metricsValue.form.Every p ∧ ∀ n ∈ m.ints, p (.int n) := by
  cases m with
  | reply head channel code remarks content =>
    simp only [record, Json.Every, Json.everyMember_append, Json.EveryMember, ReplyContent.everyMember_iff hp]
    simp [everyMember_headMembers hp, channel.every_dump hp, Json.every_ofText? hp, hp.str, ints, content?,
      metricsValue, metrics]
  | notification head channel metrics body =>
    simp only [record, Json.Every, Json.everyMember_append, Json.EveryMember, every_part_iff hp]
    simp [everyMember_headMembers hp, channel.every_dump hp, hp.str, ints, content?, metricsValue, Message.metrics]

end Every

/-- A record may be written out exactly if the metrics may, and the integers of the content. -/
theorem Message.isWritable_record_iff (m : Message) :
    m.record.isWritable = true ↔ m.metricsValue.isWritable = true ∧ ∀ n ∈ m.ints, Text.isWritable n = true := by
  rw [Json.isWritable_iff, every_record_iff Json.plain_writable, ← Json.isWritable_iff, Value.isWritable_form_iff]
  exact Iff.rfl

end DeviceRelay
