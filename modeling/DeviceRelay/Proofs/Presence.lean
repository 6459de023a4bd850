import DeviceRelay.Proofs.Envelope
import DeviceRelay.Proofs.Translator

/-!
# What a body decides

Whether there is a body decides what the content of a reply has: the field of its category or none at all. No body
and an empty one are the same to every category.

    body        ──▶ content of the category, all other fields missing
    no body     ──▶ all fields missing
    empty body  ──▶ all fields missing

* `Envelope.read_withBody` — the body takes no part in the envelope.
* `ReplyCategory.filled_of_content` — the fields that the content of a reply has.
* `TranslatorTable.body_decides` — replies, notifications, and the two ways to send nothing.
-/

namespace DeviceRelay

/-! ### Another body -/

namespace RawMessage

/-- The message with another body. -/
def withBody (raw : RawMessage) (body : Option Bytes) : RawMessage := { raw with body := body }

end RawMessage

namespace Envelope

/-- The envelope of the message with another body. -/
def withBody (e : Envelope) (body : Option Bytes) : Envelope := { e with raw := e.raw.withBody body }

/-- An envelope is read from the connector's name, the topic and the metrics, whatever becomes of the rest of the raw
message. -/
theorem read_ofRaw {f : RawMessage → RawMessage} (hname : ∀ raw, (f raw).connectorName = raw.connectorName)
    (htopic : ∀ raw, (f raw).topic = raw.topic) (hmetrics : ∀ raw, (f raw).metrics = raw.metrics) (raw : RawMessage)
    (registry : Registry) : read (f raw) registry = (read raw registry).map fun e => { e with raw := f e.raw } := by
  have hmetrics := hmetrics raw
  rw [read_congr (hname raw) (htopic raw) (by rw [hmetrics]) (fun name _ => by rw [hmetrics]) registry]
  cases h : read raw registry with
  | error fault => rfl
  | ok e =>
    have his := read_eq_ok_iff.mp h
    simp only [Except.map, his.raw, hmetrics, ← his.metrics]

/-- The body takes no part in the envelope. -/
theorem read_withBody (raw : RawMessage) (registry : Registry) (body : Option Bytes) :
    read (raw.withBody body) registry = (read raw registry).map fun e => e.withBody body :=
  read_ofRaw (f := fun raw => raw.withBody body) (fun _ => rfl) (fun _ => rfl) (fun _ => rfl) raw registry

end Envelope

namespace ReplyCategory

variable {α : Type} {e : Envelope}

/-- No body and an empty one are the same content. -/
theorem content_withBody_nil (c : ReplyCategory) (e : Envelope) :
    c.content (e.withBody none) = c.content (e.withBody (some [])) := by
  cases c <;> rfl

end ReplyCategory

/-- Of a reply with another body, only the content is another one. -/
theorem Category.reply_withBody (c : ReplyCategory) (registry : Registry) (raw : RawMessage) (body : Option Bytes) :
    message (.reply c) registry (raw.withBody body) =
      (Envelope.read raw registry).bind fun e => (c.content (e.withBody body)).map (replyMessage c e) := by
  show (Envelope.read (raw.withBody body) registry).bind (fun e =>
    (c.content e).bind fun content => .ok (replyMessage c e content)) = _
  rw [Envelope.read_withBody, bind_map]
  refine congrArg (Except.bind _) (funext fun e => ?_)
  cases c.content (e.withBody body) <;> rfl

theorem Category.message_withBody_nil (c : Category) (registry : Registry) (raw : RawMessage) :
    c.message registry (raw.withBody none) = c.message registry (raw.withBody (some [])) := by
  cases c with
  | reply r =>
    rw [reply_withBody, reply_withBody]
    exact congrArg (Except.bind _) (funext fun e => by rw [r.content_withBody_nil])
  | lifecycle phase => rfl

/-! ### What is there -/

/-- The category, if there is a value in its field. -/
def ReplyCategory.ifGiven {α : Type} (c : ReplyCategory) (field : Option α) : List ReplyCategory :=
  if field.isSome then [c] else []

/-- The categories whose fields the content has. -/
def ReplyContent.filled : ReplyContent → List ReplyCategory
  | .keystore k =>
    ReplyCategory.ifGiven .keystores k.stores ++ ReplyCategory.ifGiven .keystoreItems k.items ++
      ReplyCategory.ifGiven .keystoreItem k.item ++ ReplyCategory.ifGiven .keystoreRequest k.request
  | .inventory i =>
    ReplyCategory.ifGiven .inventoryItems i.items ++ ReplyCategory.ifGiven .inventoryBundles i.bundles ++
      ReplyCategory.ifGiven .inventoryContainers i.containers ++
      ReplyCategory.ifGiven .inventoryPackages i.packages
  | .command result => ReplyCategory.ifGiven .command result

/-- The name under which a message says whether the field of a category is there. -/
def ReplyCategory.partName : ReplyCategory → String
  | .keystores => "has_keystores"
  | .keystoreItems => "has_items"
  | .keystoreItem => "has_item"
  | .keystoreRequest => "has_csr"
  | .inventoryItems => "has_inventory_items"
  | .inventoryBundles => "has_bundles"
  | .inventoryContainers => "has_containers"
  | .inventoryPackages => "has_system_packages"
  | .command => "has_command_output"

/-- The names of the parts that a message has. -/
def Message.presentParts (m : Message) : List String := (m.parts.filter Prod.snd).map Prod.fst

/-- A reply says of the fields that its content has, and of no others, that they are there. -/
theorem Message.presentParts_reply (head : MessageHead) (channel : ReplyChannel) (code : ResponseCode)
    (remarks : ReplyRemarks) (content : ReplyContent) :
    (Message.reply head channel code remarks content).presentParts =
      content.filled.map ReplyCategory.partName := by
  cases content with
  | keystore k =>
    obtain ⟨stores, items, item, request⟩ := k
    cases stores <;> cases items <;> cases item <;> cases request <;> rfl
  | inventory i =>
    obtain ⟨items, bundles, containers, packages⟩ := i
    cases items <;> cases bundles <;> cases containers <;> cases packages <;> rfl
  | command result => cases result <;> rfl

namespace ReplyCategory

variable {α : Type} {e : Envelope}

theorem isSome_of_ofBody {read : Bytes → LooseText → Except Fault α} {result : Option α}
    (h : ofBody read e = .ok result) : result.isSome = e.raw.hasBody := by
  unfold ofBody at h
  unfold RawMessage.hasBody
  split at h
  · next hnone =>
    obtain rfl := Except.ok.inj h
    rw [hnone]
    rfl
  · next body hbody =>
    obtain ⟨a, -, rfl⟩ := map_eq_ok.mp h
    rw [hbody]
    rfl

/-- The content of a reply whose category reads a body has the field of the category exactly if there is a body,
and no other field. -/
theorem filled_of_content {c : ReplyCategory} (hc : c ≠ .command) {content : ReplyContent}
    (h : c.content e = .ok content) : content.filled = if e.raw.hasBody then [c] else [] := by
  cases c with
  | command => exact absurd rfl hc
  | _ =>
    obtain ⟨field, hfield, rfl⟩ := map_eq_ok.mp h
    simp [ReplyContent.filled, ifGiven, KeystoreContent.empty, InventoryContent.empty, isSome_of_ofBody hfield]

end ReplyCategory

/-- A notification says that it has a body exactly if the raw message has one. -/
theorem Message.presentParts_notification (head : MessageHead) (channel : LifecycleChannel)
    (metrics : Dictionary Value) (raw : RawMessage) :
    (Message.notification head channel metrics raw.content?).presentParts =
      if raw.hasBody then ["has_body"] else [] := by
  have hfilter : (raw.content?.filter fun b => !b.isEmpty) = raw.content? := by
    rw [RawMessage.content?, Option.filter_filter]
    simp
  rw [presentParts, parts, hfilter, RawMessage.hasBody]
  cases raw.content? <;> rfl

namespace Category

theorem filled_of_message {r : ReplyCategory} (hr : r ≠ .command) {registry : Registry} {raw : RawMessage}
    {m : Message} (h : message (.reply r) registry raw = .ok m) :
    (∃ content, m.content? = some content ∧ content.filled = if raw.hasBody then [r] else []) ∧
      m.presentParts = if raw.hasBody then [r.partName] else [] := by
  obtain ⟨e, he, h⟩ := bind_eq_ok.mp h
  obtain ⟨content, hcontent, h⟩ := bind_eq_ok.mp h
  obtain rfl := Except.ok.inj h
  have hfilled := ReplyCategory.filled_of_content hr hcontent
  rw [(Envelope.read_eq_ok_iff.mp he).raw] at hfilled
  refine ⟨⟨content, rfl, hfilled⟩, ?_⟩
  rw [replyMessage, Message.presentParts_reply, hfilled]
  split <;> rfl

theorem body_of_message {phase : LifecyclePhase} {registry : Registry} {raw : RawMessage} {m : Message}
    (h : message (.lifecycle phase) registry raw = .ok m) :
    (∃ head channel, m = .notification head channel raw.metrics raw.content?) ∧
      m.presentParts = if raw.hasBody then ["has_body"] else [] := by
  obtain ⟨d, -, h⟩ := bind_eq_ok.mp h
  obtain ⟨channel, -, h⟩ := bind_eq_ok.mp h
  obtain rfl := Except.ok.inj h
  exact ⟨⟨_, _, rfl⟩, Message.presentParts_notification _ _ _ raw⟩

end Category

/-- Whether there is a body decides what a message has: a reply of a category that reads a body the field of that
category, a notification the body as it came. No body and an empty one make the same message, or are rejected for the
same cause. -/
theorem TranslatorTable.body_decides (registry : Registry) (raw : RawMessage) :
    (∀ c : ReplyCategory, c ≠ .command → ∀ m, (full registry).translate c.tag raw = .ok m →
      (∃ content, m.content? = some content ∧ content.filled = if raw.hasBody then [c] else []) ∧
        m.presentParts = if raw.hasBody then [c.partName] else []) ∧
    (∀ phase m, (full registry).translate (Category.lifecycle phase).tag raw = .ok m →
      (∃ head channel, m = .notification head channel raw.metrics raw.content?) ∧
        m.presentParts = if raw.hasBody then ["has_body"] else []) ∧
    ∀ c : Category, ∃ outcome : Except Fault Message, ∀ body ∈ [none, some []],
      (full registry).translate c.tag (raw.withBody body) =
        outcome.mapError fun cause => .rejected cause (raw.withBody body) := by
  refine ⟨?_, ?_, ?_⟩
  · intro c hc m h
    rw [show c.tag = (Category.reply c).tag from rfl, translate_full_tag] at h
    exact Category.filled_of_message hc (mapError_eq_ok.mp h)
  · intro phase m h
    rw [translate_full_tag] at h
    exact Category.body_of_message (mapError_eq_ok.mp h)
  · intro c
    refine ⟨c.message registry (raw.withBody none), ?_⟩
    intro body hbody
    rw [translate_full_tag]
    simp only [List.mem_cons, List.not_mem_nil, or_false] at hbody
    rcases hbody with rfl | rfl
    · rfl
    · rw [c.message_withBody_nil]

/-- A body with an empty list. -/
def emptyList : Bytes := Charset.Utf8.ofText "[]"

/-- The empty list is there. -/
theorem TranslatorTable.body_decides_emptyList :
    ∃ m, (full .packaged).translate ReplyCategory.keystores.tag (Envelope.framed (some emptyList) .empty) =
        .ok m ∧ m.presentParts = ["has_keystores"] := by
  have hok : ((full .packaged).translate ReplyCategory.keystores.tag
      (Envelope.framed (some emptyList) .empty)).toOption.isSome = true := by decide +kernel
  cases h : (full .packaged).translate ReplyCategory.keystores.tag
      (Envelope.framed (some emptyList) .empty) with
  | error failure => rw [h] at hok; cases hok
  | ok m => exact ⟨m, rfl, ((body_decides .packaged _).1 .keystores (by decide) m h).2⟩

end DeviceRelay
