import DeviceRelay.Category
import DeviceRelay.Proofs.Body
import DeviceRelay.Proofs.Envelope
import DeviceRelay.Proofs.Message
import DeviceRelay.Proofs.Message.Record

/-!
# The integers of a message

A message may be written out as JSON text if none of its integers has too many digits. Those of its content come
from a body, which is read under the same limit, or are exit codes, which come from its metrics.

    body ──Body.read──▶ document ──▶ entry ──▶ content        no step makes an integer longer

* `ReplyCategory.isWritable_of_content` — the integers of the content of a reply.
* `Category.isWritable_of_message` — those of a whole message: only metrics could have too many digits.
-/

namespace DeviceRelay

/-! ### Documents -/

namespace Members

variable {wire own : String} {rest : Members} {row : rest.Row} {n : Int}

theorem mem_ints_required {schema : Schema} {x : schema.Item} (h : n ∈ rest.ints row) :
    n ∈ (required wire own schema rest).ints (x, row) :=
  List.mem_append_right _ h

theorem mem_ints_optional {schema : Schema} {slot : Slot schema.Item} (h : n ∈ rest.ints row) :
    n ∈ (optional wire own schema rest).ints (slot, row) := by
  cases slot with
  | absent | null => exact h
  | given x => exact List.mem_append_right _ h

/-- The value of an optional integer is one of the integers. -/
theorem mem_ints_of_mem_value? {slot : Slot Int} (h : n ∈ slot.value?) :
    n ∈ (optional wire own .integer rest).ints (slot, row) := by
  cases slot with
  | absent | null => cases h
  | given m =>
    obtain rfl := Option.some.inj h
    exact List.mem_cons_self

end Members

theorem Body.isWritable_of_mem_ints {body : Option Bytes} {shape : Shape} {charset : LooseText} {x : shape.Item}
    (h : Body.read body shape charset = .ok x) {n : Int} (hn : n ∈ shape.schema.ints x) : Text.isWritable n = true :=
  Json.isWritable_int_iff.mpr (digitCount_le_of_read h n hn)

/-- The integers of what becomes of the rows of a document are integers of the rows. -/
theorem isWritable_of_rows {α : Type} {schema : Schema} {rows : List schema.Item}
    (hrows : ∀ n ∈ rows.flatMap schema.ints, Text.isWritable n = true) {f : schema.Item → Except Fault α}
    {g : α → Option Int} (hf : ∀ row a, f row = .ok a → ∀ n ∈ g a, n ∈ schema.ints row) {as : List α}
    (h : rows.mapM f = .ok as) : ∀ a ∈ as, ∀ n ∈ g a, Text.isWritable n = true := by
  intro a ha n hn
  obtain ⟨row, hrow, hfrow⟩ := exists_mem_of_mapM h ha
  exact hrows n (List.mem_flatMap.mpr ⟨row, hrow, hf row a hfrow n hn⟩)

namespace Keystore

theorem StoreEntry.mem_ints {row : storeSchema.Item} {n : Int} (h : n ∈ (StoreEntry.ofItem row).size) :
    n ∈ storeSchema.ints row := by
  obtain ⟨pid, kind, size, ⟨⟩⟩ := row
  apply Members.mem_ints_required
  apply Members.mem_ints_optional
  exact Members.mem_ints_of_mem_value? h

theorem ItemEntry.mem_ints {row : itemSchema.Item} {n : Int} (h : n ∈ (ItemEntry.ofItem row).size) :
    n ∈ itemSchema.ints row := by
  obtain ⟨pid, entryAlias, kind, size, more⟩ := row
  apply Members.mem_ints_optional
  apply Members.mem_ints_required
  apply Members.mem_ints_optional
  exact Members.mem_ints_of_mem_value? h

theorem size_of_translateStore {e : StoreEntry} {s : Store} (h : e.translate = .ok s) : s.size = e.size := by
  obtain ⟨-, h⟩ := check_bind_eq_ok.mp h
  rw [← Except.ok.inj h]

theorem size_of_translateItem {e : ItemEntry} {i : Item} (h : e.translate = .ok i) : i.size = e.size := by
  obtain ⟨-, h⟩ := check_bind_eq_ok.mp h
  obtain ⟨notBefore, -, h⟩ := bind_eq_ok.mp h
  obtain ⟨notAfter, -, h⟩ := bind_eq_ok.mp h
  rw [← Except.ok.inj h]

theorem isWritable_of_readStores {body : Bytes} {charset : LooseText} {stores : List Store}
    (h : readStores body charset = .ok stores) : ∀ s ∈ stores, ∀ n ∈ s.size, Text.isWritable n = true := by
  obtain ⟨rows, hrows, h⟩ := bind_eq_ok.mp h
  refine isWritable_of_rows (fun n => Body.isWritable_of_mem_ints hrows) ?_ h
  intro row s htranslate n hn
  rw [size_of_translateStore htranslate] at hn
  exact StoreEntry.mem_ints hn

theorem isWritable_of_readItems {body : Bytes} {charset : LooseText} {items : List Item}
    (h : readItems body charset = .ok items) : ∀ i ∈ items, ∀ n ∈ i.size, Text.isWritable n = true := by
  obtain ⟨rows, hrows, h⟩ := bind_eq_ok.mp h
  refine isWritable_of_rows (fun n => Body.isWritable_of_mem_ints hrows) ?_ h
  intro row i htranslate n hn
  rw [size_of_translateItem htranslate] at hn
  exact ItemEntry.mem_ints hn

theorem isWritable_of_readItem {body : Bytes} {charset : LooseText} {i : Item}
    (h : readItem body charset = .ok i) : ∀ n ∈ i.size, Text.isWritable n = true := by
  obtain ⟨row, hrow, htranslate⟩ := bind_eq_ok.mp h
  intro n hn
  rw [size_of_translateItem htranslate] at hn
  exact Body.isWritable_of_mem_ints hrow (ItemEntry.mem_ints hn)

end Keystore

namespace Inventory

theorem BundleEntry.mem_ints (row : bundleSchema.Item) : (BundleEntry.ofItem row).id ∈ bundleSchema.ints row :=
  List.mem_cons_self

theorem id_of_translateBundle {e : BundleEntry} {b : Bundle} (h : e.translate = .ok b) : b.id = e.id := by
  obtain ⟨-, h⟩ := check_bind_eq_ok.mp h
  obtain ⟨-, h⟩ := ite_error_eq_ok.mp h
  rw [← Except.ok.inj h]

theorem isWritable_of_readBundles {body : Bytes} {charset : LooseText} {bundles : List Bundle}
    (h : readBundles body charset = .ok bundles) : ∀ b ∈ bundles, Text.isWritable b.id = true := by
  obtain ⟨⟨rows, ⟨⟩⟩, hrows, h⟩ := bind_eq_ok.mp h
  have hids := isWritable_of_rows (g := fun b => some b.id)
    (fun n hn => Body.isWritable_of_mem_ints hrows (List.mem_append_left _ hn)) ?_ h
  · exact fun b hb => hids b hb b.id rfl
  · rintro row b htranslate n ⟨rfl⟩
    rw [id_of_translateBundle htranslate]
    exact BundleEntry.mem_ints row

end Inventory

/-! ### Metrics -/

/-- A metric of metrics that may be written out may be written out. -/
theorem Dictionary.isWritable_of_get? {metrics : Dictionary Value} {name : String} {v : Value}
    (h : (Value.dict metrics.entries).isWritable = true) (hv : metrics.get? name = some v) : v.isWritable = true :=
  Value.isWritable_dict_iff.mp h (name, v) (mem_of_firstEntry hv)

namespace CommandResult

theorem get?_of_exitOf {metrics : Dictionary Value} {n : Int} (h : exitOf metrics = .ok (some n)) :
    metrics.get? exitMetric = some (.int n) := by
  unfold exitOf at h
  split at h
  · cases h
  · cases h
  · next hget => rw [hget, Option.some.inj (Except.ok.inj h)]
  · cases h

/-- The exit code of a result is the metric. -/
theorem exitOf_of_read {metrics : Dictionary Value} {r : CommandResult} (h : read metrics = .ok (some r)) :
    exitOf metrics = .ok r.exitCode := by
  unfold read at h
  split at h
  · obtain ⟨result, hresult, hr⟩ := map_eq_ok.mp h
    obtain rfl := Option.some.inj hr
    obtain ⟨timedOut, -, hresult⟩ := bind_eq_ok.mp hresult
    obtain ⟨stdout, -, hresult⟩ := bind_eq_ok.mp hresult
    obtain ⟨stderr, -, hresult⟩ := bind_eq_ok.mp hresult
    obtain ⟨exitCode, hexit, hresult⟩ := bind_eq_ok.mp hresult
    obtain ⟨message, -, hresult⟩ := bind_eq_ok.mp hresult
    obtain ⟨stack, -, hresult⟩ := bind_eq_ok.mp hresult
    dsimp only at hresult
    split at hresult
    · obtain rfl := Except.ok.inj hresult
      exact hexit
    · cases hresult
  · cases h

theorem isWritable_of_read {metrics : Dictionary Value} {r : CommandResult} (h : read metrics = .ok (some r))
    (hmetrics : (Value.dict metrics.entries).isWritable = true) : ∀ n ∈ r.exitCode, Text.isWritable n = true := by
  intro n hn
  have hexit := exitOf_of_read h
  rw [Option.mem_def.mp hn] at hexit
  have hwritable := Dictionary.isWritable_of_get? hmetrics (get?_of_exitOf hexit)
  rwa [Value.isWritable] at hwritable

end CommandResult

/-! ### Contents -/

theorem KeystoreContent.forall_ints_iff {p : Int → Prop} {c : KeystoreContent} :
    (∀ n ∈ c.ints, p n) ↔ (∀ stores ∈ c.stores, ∀ s ∈ stores, ∀ n ∈ s.size, p n) ∧
      (∀ items ∈ c.items, ∀ i ∈ items, ∀ n ∈ i.size, p n) ∧ ∀ i ∈ c.item, ∀ n ∈ i.size, p n := by
  obtain ⟨stores, items, item, request⟩ := c
  simp only [ints, List.forall_mem_append, List.forall_mem_flatMap, Option.mem_toList, and_assoc]
  cases stores <;> cases items <;> simp

theorem InventoryContent.forall_ints_iff {p : Int → Prop} {c : InventoryContent} :
    (∀ n ∈ c.ints, p n) ↔ ∀ bundles ∈ c.bundles, ∀ b ∈ bundles, p b.id := by
  obtain ⟨items, bundles, containers, packages⟩ := c
  cases bundles <;> simp [ints]

namespace ReplyCategory

variable {e : Envelope}

/-- The integers of the content of a reply may be written out if the metrics may. -/
theorem isWritable_of_content {c : ReplyCategory} {content : ReplyContent} (h : c.content e = .ok content)
    (hmetrics : (Value.dict e.metrics.entries).isWritable = true) :
    ∀ n ∈ content.ints, Text.isWritable n = true := by
  cases c with
  | keystores =>
    obtain ⟨stores, hstores, rfl⟩ := map_eq_ok.mp h
    have hsizes := of_ofBody hstores fun _ _ _ => Keystore.isWritable_of_readStores
    exact KeystoreContent.forall_ints_iff.mpr ⟨hsizes, by simp [KeystoreContent.empty], by simp [KeystoreContent.empty]⟩
  | keystoreItems =>
    obtain ⟨items, hitems, rfl⟩ := map_eq_ok.mp h
    have hsizes := of_ofBody hitems fun _ _ _ => Keystore.isWritable_of_readItems
    exact KeystoreContent.forall_ints_iff.mpr ⟨by simp [KeystoreContent.empty], hsizes, by simp [KeystoreContent.empty]⟩
  | keystoreItem =>
    obtain ⟨item, hitem, rfl⟩ := map_eq_ok.mp h
    have hsize := of_ofBody hitem fun _ _ _ => Keystore.isWritable_of_readItem
    exact KeystoreContent.forall_ints_iff.mpr ⟨by simp [KeystoreContent.empty], by simp [KeystoreContent.empty], hsize⟩
  | inventoryBundles =>
    obtain ⟨bundles, hbundles, rfl⟩ := map_eq_ok.mp h
    have hids := of_ofBody hbundles fun _ _ _ => Inventory.isWritable_of_readBundles
    exact InventoryContent.forall_ints_iff.mpr hids
  | command =>
    obtain ⟨result, hresult, rfl⟩ := map_eq_ok.mp h
    cases result with
    | none => exact List.forall_mem_nil _
    | some r => simpa [ReplyContent.ints] using CommandResult.isWritable_of_read hresult hmetrics
  | keystoreRequest | inventoryItems | inventoryContainers | inventoryPackages =>
    obtain ⟨_, -, rfl⟩ := map_eq_ok.mp h
    exact List.forall_mem_nil _

end ReplyCategory

/-- The metrics of a message are metrics of the raw message. -/
theorem Category.metrics_subset_of_message {c : Category} {registry : Registry} {raw : RawMessage} {m : Message}
    (h : c.message registry raw = .ok m) : m.metrics.entries ⊆ raw.metrics.entries := by
  cases c with
  | reply r =>
    obtain ⟨e, he, h⟩ := bind_eq_ok.mp h
    obtain ⟨content, -, h⟩ := bind_eq_ok.mp h
    obtain rfl := Except.ok.inj h
    show e.metrics.entries ⊆ raw.metrics.entries
    rw [(Envelope.read_eq_ok_iff.mp he).metrics]
    exact List.filter_subset_self _
  | lifecycle phase =>
    obtain ⟨d, -, h⟩ := bind_eq_ok.mp h
    obtain ⟨channel, -, h⟩ := bind_eq_ok.mp h
    obtain rfl := Except.ok.inj h
    exact List.Subset.refl _

/-- The integers of the content of a message may be written out if the metrics of the raw message may. -/
theorem Category.isWritable_of_message {c : Category} {registry : Registry} {raw : RawMessage} {m : Message}
    (h : c.message registry raw = .ok m) (hmetrics : (Value.dict raw.metrics.entries).isWritable = true) :
    ∀ n ∈ m.ints, Text.isWritable n = true := by
  cases c with
  | reply r =>
    obtain ⟨e, he, h⟩ := bind_eq_ok.mp h
    obtain ⟨content, hcontent, h⟩ := bind_eq_ok.mp h
    obtain rfl := Except.ok.inj h
    simp only [replyMessage, Message.ints, Message.content?, Option.toList_some, List.flatMap_singleton]
    refine ReplyCategory.isWritable_of_content hcontent ?_
    rw [(Envelope.read_eq_ok_iff.mp he).metrics]
    exact Value.isWritable_dict_iff.mpr fun entry hentry =>
      Value.isWritable_dict_iff.mp hmetrics entry (List.mem_of_mem_filter hentry)
  | lifecycle phase =>
    obtain ⟨d, -, h⟩ := bind_eq_ok.mp h
    obtain ⟨channel, -, h⟩ := bind_eq_ok.mp h
    obtain rfl := Except.ok.inj h
    exact List.forall_mem_nil _

end DeviceRelay
