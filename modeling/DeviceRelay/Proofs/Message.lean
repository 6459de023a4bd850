import DeviceRelay.Proofs.Command
import DeviceRelay.Proofs.Envelope
import DeviceRelay.Proofs.Inventory
import DeviceRelay.Proofs.Keystore
import DeviceRelay.Proofs.LifecycleTopic
import DeviceRelay.Proofs.Translator

/-!
# Messages that are let through

Every message that a translator lets through keeps the rules of its category. They are checked on the documents of
devices, before dates become timestamps, states are written in capital letters and requests are trimmed, and hold of
what comes out.

    head        the client is that of the channel, and has a name
    keystores   Keystore.Store.Lawful, Keystore.Item.Lawful, Keystore.SigningRequest.Lawful
    software    Inventory.Item.Lawful, …, Inventory.Package.Lawful
    commands    CommandResult.Lawful

* `ReplyCategory.lawful_of_content` — the content of a reply.
* `TranslatorTable.message_lawful` — whole messages, under any registry.
-/

namespace DeviceRelay

/-- What all content about keystores keeps to. -/
structure KeystoreContent.Lawful (c : KeystoreContent) : Prop where
  stores : ∀ stores ∈ c.stores, ∀ s ∈ stores, s.Lawful
  items : ∀ items ∈ c.items, ∀ i ∈ items, i.Lawful
  item : ∀ i ∈ c.item, i.Lawful
  request : ∀ r ∈ c.request, r.Lawful

/-- What all content about software keeps to. -/
structure InventoryContent.Lawful (c : InventoryContent) : Prop where
  items : ∀ items ∈ c.items, ∀ i ∈ items, i.Lawful
  bundles : ∀ bundles ∈ c.bundles, ∀ b ∈ bundles, b.Lawful
  containers : ∀ containers ∈ c.containers, ∀ container ∈ containers, container.Lawful
  packages : ∀ packages ∈ c.packages, ∀ p ∈ packages, p.Lawful

theorem KeystoreContent.lawful_empty : KeystoreContent.empty.Lawful := by
  constructor <;> simp [KeystoreContent.empty]

theorem InventoryContent.lawful_empty : InventoryContent.empty.Lawful := by
  constructor <;> simp [InventoryContent.empty]

/-- What the content of every reply keeps to. -/
def ReplyContent.Lawful : ReplyContent → Prop
  | .keystore content => content.Lawful
  | .inventory content => content.Lawful
  | .command result => ∀ r ∈ result, r.Lawful

/-- The client that the channel of a message names. -/
def Message.channelClient : Message → String
  | .reply _ channel _ _ _ => channel.clientId
  | .notification _ channel _ _ => channel.clientId

/-- What every message keeps to. -/
structure Message.Lawful (m : Message) : Prop where
  clientId_ne : m.head.clientId ≠ ""
  clientId_eq : m.head.clientId = m.channelClient
  content : ∀ content ∈ m.content?, content.Lawful

/-! ### Content -/

namespace ReplyCategory

variable {α : Type} {e : Envelope}

/-- What a body is read as, if there is a body. -/
theorem of_ofBody {p : α → Prop} {read : Bytes → LooseText → Except Fault α} {result : Option α}
    (h : ofBody read e = .ok result) (hread : ∀ body charset a, read body charset = .ok a → p a) :
    ∀ a ∈ result, p a := by
  unfold ofBody at h
  split at h
  · obtain rfl := Except.ok.inj h
    simp
  · obtain ⟨a, ha, rfl⟩ := map_eq_ok.mp h
    rintro b ⟨⟩
    exact hread _ _ a ha

theorem lawful_of_content {c : ReplyCategory} {content : ReplyContent} (h : c.content e = .ok content) :
    content.Lawful := by
  cases c with
  | keystores =>
    obtain ⟨stores, hstores, rfl⟩ := map_eq_ok.mp h
    exact { KeystoreContent.lawful_empty with
      stores := of_ofBody hstores fun _ _ _ => Keystore.lawful_of_readStores }
  | keystoreItems =>
    obtain ⟨items, hitems, rfl⟩ := map_eq_ok.mp h
    exact { KeystoreContent.lawful_empty with
      items := of_ofBody hitems fun _ _ _ => Keystore.lawful_of_readItems }
  | keystoreItem =>
    obtain ⟨item, hitem, rfl⟩ := map_eq_ok.mp h
    exact { KeystoreContent.lawful_empty with
      item := of_ofBody hitem fun _ _ _ => Keystore.lawful_of_readItem }
  | keystoreRequest =>
    obtain ⟨request, hrequest, rfl⟩ := map_eq_ok.mp h
    exact { KeystoreContent.lawful_empty with
      request := of_ofBody hrequest fun _ _ _ => Keystore.lawful_of_readRequest }
  | inventoryItems =>
    obtain ⟨items, hitems, rfl⟩ := map_eq_ok.mp h
    exact { InventoryContent.lawful_empty with
      items := of_ofBody hitems fun _ _ _ => Inventory.lawful_of_readItems }
  | inventoryBundles =>
    obtain ⟨bundles, hbundles, rfl⟩ := map_eq_ok.mp h
    exact { InventoryContent.lawful_empty with
      bundles := of_ofBody hbundles fun _ _ _ => Inventory.lawful_of_readBundles }
  | inventoryContainers =>
    obtain ⟨containers, hcontainers, rfl⟩ := map_eq_ok.mp h
    exact { InventoryContent.lawful_empty with
      containers := of_ofBody hcontainers fun _ _ _ => Inventory.lawful_of_readContainers }
  | inventoryPackages =>
    obtain ⟨packages, hpackages, rfl⟩ := map_eq_ok.mp h
    exact { InventoryContent.lawful_empty with
      packages := of_ofBody hpackages fun _ _ _ => Inventory.lawful_of_readPackages }
  | command =>
    obtain ⟨result, hresult, rfl⟩ := map_eq_ok.mp h
    rintro r ⟨⟩
    exact CommandResult.lawful_of_read hresult

end ReplyCategory

/-! ### Messages -/

theorem Category.lawful_of_message {c : Category} {registry : Registry} {raw : RawMessage} {m : Message}
    (h : c.message registry raw = .ok m) : m.Lawful := by
  cases c with
  | reply r =>
    obtain ⟨e, he, h⟩ := bind_eq_ok.mp h
    obtain ⟨content, hcontent, h⟩ := bind_eq_ok.mp h
    obtain rfl := Except.ok.inj h
    have hchannel := (ReplyChannel.read_eq_ok_iff.mp (Envelope.read_eq_ok_iff.mp he).channel).2
    refine ⟨hchannel.clientId_ne, rfl, ?_⟩
    rintro _ ⟨⟩
    exact ReplyCategory.lawful_of_content hcontent
  | lifecycle phase =>
    obtain ⟨d, -, h⟩ := bind_eq_ok.mp h
    obtain ⟨channel, hchannel, h⟩ := bind_eq_ok.mp h
    obtain rfl := Except.ok.inj h
    obtain ⟨-, -, -, hclient⟩ := LifecycleChannel.read_eq_ok_iff.mp (mapError_eq_ok.mp hchannel)
    exact ⟨hclient, rfl, by simp [Message.content?]⟩

/-- Whatever a raw message is translated as, under whatever registry, keeps the rules. -/
theorem TranslatorTable.message_lawful {registry : Registry} {tag : String} {raw : RawMessage} {m : Message}
    (h : (full registry).translate tag raw = .ok m) : m.Lawful := by
  obtain ⟨c, -, hm⟩ := translate_full_eq_ok_iff.mp h
  exact Category.lawful_of_message hm

/-- An item whose certificate is valid for one millisecond. -/
def briefItem : Bytes :=
  Charset.Utf8.ofText
    "\x7b\"alias\":\"k\",\"startDate\":1,\"expirationDate\":2,\"certificateChain\":[\"c\"]\x7d"

theorem TranslatorTable.message_lawful_brief :
    ∃ m, (full .packaged).translate "keystore.item" (Envelope.framed (some briefItem) .empty) = .ok m ∧
      m.Lawful := by
  have hok : ((full .packaged).translate "keystore.item"
      (Envelope.framed (some briefItem) .empty)).toOption.isSome = true := by decide +kernel
  cases h : (full .packaged).translate "keystore.item" (Envelope.framed (some briefItem) .empty) with
  | error failure => rw [h] at hok; cases hok
  | ok m => exact ⟨m, rfl, message_lawful h⟩

end DeviceRelay
