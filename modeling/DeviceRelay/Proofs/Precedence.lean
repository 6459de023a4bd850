import DeviceRelay.Proofs.Cause
import DeviceRelay.Proofs.FirstFault
import DeviceRelay.Proofs.Translator

/-!
# Which fault a message is rejected for

A raw message may have several faults, and it is rejected for one of them. Here are all its steps in a row, each
looked at on its own:

    connector   encoding   topic │ code   what failed   where │ body   entries and metrics, one after another
    ─────────── any message ─────┴───────────────────── replies ────────────────────────────────────────────

* `ReplyCategory.fault?_content`, `Category.fault?_message` — the first step that has a fault decides.
* `TranslatorTable.translate_by_first_fault` — what becomes of a message under a tag.
-/

namespace DeviceRelay

/-! ### Entries -/

namespace Keystore

/-- The steps of a keystore. -/
def StoreEntry.steps (e : StoreEntry) : List (Option Fault) := [fault? e.check]

/-- The steps of an item: its rules, and then its dates. -/
def ItemEntry.steps (e : ItemEntry) : List (Option Fault) :=
  [fault? e.check, fault? (dateOf e.startDate), fault? (dateOf e.expirationDate)]

theorem StoreEntry.fault?_translate (e : StoreEntry) : fault? e.translate = firstFault e.steps :=
  fault?_bind fun _ _ => rfl

theorem ItemEntry.fault?_translate (e : ItemEntry) : fault? e.translate = firstFault e.steps :=
  fault?_bind fun _ _ => fault?_bind fun _ _ => fault?_bind fun _ _ => rfl

end Keystore

namespace Inventory

/-- The steps of an item or package in a list of that name. -/
def Entry.steps (field : String) (e : Entry) : List (Option Fault) := [fault? (checkName field e.name)]

/-- The steps of a bundle. -/
def BundleEntry.steps (e : BundleEntry) : List (Option Fault) :=
  [fault? (checkName "bundles" e.name),
    if e.id < 0 then some (.validation "bundles.id" s!"must not be negative, got {e.id}") else none]

/-- The steps of a container. -/
def ContainerEntry.steps (e : ContainerEntry) : List (Option Fault) :=
  [fault? (checkName "containers" e.name), fault? (stateOf e.state)]

theorem Entry.fault?_toItem (e : Entry) : fault? e.toItem = firstFault (e.steps "inventory") :=
  fault?_bind fun _ _ => rfl

theorem Entry.fault?_toPackage (e : Entry) : fault? e.toPackage = firstFault (e.steps "systemPackages") :=
  fault?_bind fun _ _ => rfl

theorem BundleEntry.fault?_translate (e : BundleEntry) : fault? e.translate = firstFault e.steps := by
  refine fault?_bind fun _ _ => ?_
  rw [firstFault_singleton]
  split <;> rfl

theorem ContainerEntry.fault?_translate (e : ContainerEntry) : fault? e.translate = firstFault e.steps :=
  fault?_bind fun _ _ => fault?_bind fun _ _ => rfl

end Inventory

/-! ### Contents -/

namespace ReplyCategory

/-- The steps on the body of a reply: it is decoded, and then its entries are looked at in their order. -/
def bodySteps (c : ReplyCategory) (body : Bytes) (charset : LooseText) : List (Option Fault) :=
  match c with
  | .keystores =>
    andThen (Body.read (some body) Keystore.storesShape charset) fun rows : List Keystore.storeSchema.Item =>
      rows.flatMap fun row => (Keystore.StoreEntry.ofItem row).steps
  | .keystoreItems =>
    andThen (Body.read (some body) Keystore.itemsShape charset) fun rows : List Keystore.itemSchema.Item =>
      rows.flatMap fun row => (Keystore.ItemEntry.ofItem row).steps
  | .keystoreItem =>
    andThen (Body.read (some body) Keystore.itemShape charset) fun row => (Keystore.ItemEntry.ofItem row).steps
  | .keystoreRequest =>
    andThen (Body.text (some body) charset) fun text => [fault? (Keystore.SigningRequest.ofText text.toList)]
  | .inventoryItems =>
    andThen (Body.read (some body) Inventory.itemsShape charset)
      fun list : List (Inventory.entrySchema "item_type").Item × Unit =>
        list.1.flatMap fun row => (Inventory.Entry.ofItem row).steps "inventory"
  | .inventoryBundles =>
    andThen (Body.read (some body) Inventory.bundlesShape charset)
      fun list : List Inventory.bundleSchema.Item × Unit =>
        list.1.flatMap fun row => (Inventory.BundleEntry.ofItem row).steps
  | .inventoryContainers =>
    andThen (Body.read (some body) Inventory.containersShape charset)
      fun list : List Inventory.containerSchema.Item × Unit =>
        list.1.flatMap fun row => (Inventory.ContainerEntry.ofItem row).steps
  | .inventoryPackages =>
    andThen (Body.read (some body) Inventory.packagesShape charset)
      fun list : List (Inventory.entrySchema "package_type").Item × Unit =>
        list.1.flatMap fun row => (Inventory.Entry.ofItem row).steps "systemPackages"
  | .command => []

/-- The steps on the metrics of a reply that the envelope does not account for. -/
def metricSteps (c : ReplyCategory) (metrics : Dictionary Value) : List (Option Fault) :=
  match c with
  | .command => [fault? (CommandResult.read metrics)]
  | _ => []

/-- The steps on the content of a reply. -/
def contentSteps (c : ReplyCategory) (raw : RawMessage) (charset : LooseText) : List (Option Fault) :=
  (match raw.content? with
    | some body => c.bodySteps body charset
    | none => []) ++
    c.metricSteps (raw.metrics.filterNames fun name => !Envelope.ownMetrics.contains name)

theorem fault?_ofBody {α : Type} {read : Bytes → LooseText → Except Fault α} {e : Envelope}
    {steps : Bytes → List (Option Fault)} (h : ∀ body, fault? (read body e.charset) = firstFault (steps body)) :
    fault? (ofBody read e) = firstFault ((match e.raw.content? with
      | some body => steps body
      | none => []) ++ []) := by
  rw [List.append_nil, ofBody]
  cases e.raw.content? with
  | none => rfl
  | some body => exact (fault?_map _ _).trans (h body)

/-- Of the steps on the content of a reply, the first that has a fault decides. -/
theorem fault?_content (c : ReplyCategory) {raw : RawMessage} {registry : Registry} {e : Envelope}
    (he : e.IsOf raw registry) : fault? (c.content e) = firstFault (c.contentSteps raw e.charset) := by
  rw [← he.raw, contentSteps, he.raw, ← he.metrics, ← he.raw]
  -- a document or a text is decoded as a whole, and then its rows come one by one; a command has metrics instead
  cases c with
  | command =>
    refine (fault?_map _ _).trans ?_
    cases e.raw.content? <;> exact (firstFault_singleton _).symm
  | keystores =>
    refine (fault?_map _ _).trans (fault?_ofBody fun body => ?_)
    exact fault?_bind_andThen fun rows => fault?_mapM (fun row => Keystore.StoreEntry.fault?_translate _) rows
  | keystoreItems =>
    refine (fault?_map _ _).trans (fault?_ofBody fun body => ?_)
    exact fault?_bind_andThen fun rows => fault?_mapM (fun row => Keystore.ItemEntry.fault?_translate _) rows
  | keystoreItem =>
    refine (fault?_map _ _).trans (fault?_ofBody fun body => ?_)
    exact fault?_bind_andThen fun row => Keystore.ItemEntry.fault?_translate _
  | keystoreRequest =>
    refine (fault?_map _ _).trans (fault?_ofBody fun body => ?_)
    exact fault?_bind_andThen fun text => (firstFault_singleton _).symm
  | inventoryItems =>
    refine (fault?_map _ _).trans (fault?_ofBody fun body => ?_)
    exact fault?_bind_andThen fun list => fault?_mapM (fun row => Inventory.Entry.fault?_toItem _) list.1
  | inventoryBundles =>
    refine (fault?_map _ _).trans (fault?_ofBody fun body => ?_)
    exact fault?_bind_andThen fun list => fault?_mapM (fun row => Inventory.BundleEntry.fault?_translate _) list.1
  | inventoryContainers =>
    refine (fault?_map _ _).trans (fault?_ofBody fun body => ?_)
    exact fault?_bind_andThen fun list => fault?_mapM (fun row => Inventory.ContainerEntry.fault?_translate _) list.1
  | inventoryPackages =>
    refine (fault?_map _ _).trans (fault?_ofBody fun body => ?_)
    exact fault?_bind_andThen fun list => fault?_mapM (fun row => Inventory.Entry.fault?_toPackage _) list.1

end ReplyCategory

/-! ### Messages -/

namespace Category

/-- The step on the topic of a message. -/
def topicStep (c : Category) (topic : String) (d : Descriptor) : Option Fault :=
  match c with
  | .reply _ => fault? ((ReplyChannel.read topic d).mapError Fault.envelope)
  | .lifecycle phase => fault? ((LifecycleChannel.read topic d phase).mapError Fault.envelope)

/-- The steps that every message has: its connector, the encoding of bodies there, and its topic. Without a connector
there is nothing to look at the others with. -/
def frameSteps (c : Category) (registry : Registry) (raw : RawMessage) : List (Option Fault) :=
  match registry.lookup raw.connectorName with
  | none => [some (.envelope (.unknownConnector raw.connectorName))]
  | some d =>
    [none,
      if Envelope.bodyEncodings.contains d.bodyEncoding then none
        else some (.envelope (.unsupportedEncoding d.name.repaired d.bodyEncoding)),
      c.topicStep raw.topic d]

/-- The steps that every reply has: its code, and in two metrics what failed and where. -/
def replySteps (raw : RawMessage) : List (Option Fault) :=
  [fault? (ResponseCode.read raw.metrics), fault? (Envelope.wordsOf raw.metrics Envelope.messageMetric),
    fault? (Envelope.wordsOf raw.metrics Envelope.stackMetric)]

/-- All steps on a message, in their order. -/
def steps (c : Category) (registry : Registry) (raw : RawMessage) : List (Option Fault) :=
  c.frameSteps registry raw ++
    match c with
    | .reply r =>
      replySteps raw ++ match registry.lookup raw.connectorName with
        | some d => r.contentSteps raw d.charset
        | none => []
    | .lifecycle _ => []

/-- Behind the frame come the steps that the descriptor leads to. -/
theorem fault?_frame {α β : Type} (c : Category) {registry : Registry} {raw : RawMessage}
    {topic : Descriptor → Except Fault α} (htopic : ∀ d, fault? (topic d) = c.topicStep raw.topic d)
    {f : Descriptor → α → Except Fault β} {more : List (Option Fault)}
    (hf : ∀ d a, topic d = .ok a → fault? (f d a) = firstFault more) :
    fault? (((Envelope.resolve raw registry).mapError Fault.envelope).bind fun d => (topic d).bind (f d)) =
      firstFault (c.frameSteps registry raw ++ more) := by
  unfold Envelope.resolve frameSteps
  -- the topic is looked at only with a descriptor whose encoding of bodies is read
  cases registry.lookup raw.connectorName with
  | none => rfl
  | some d =>
    dsimp only
    by_cases hencoding : Envelope.bodyEncodings.contains d.bodyEncoding = true
    · rw [if_pos hencoding, if_pos hencoding, ← htopic d]
      show fault? ((topic d).bind (f d)) = firstFault (fault? (topic d) :: more)
      exact fault?_bind (hf d)
    · rw [if_neg hencoding, if_neg hencoding]
      rfl

/-- Of the steps on a message, the first that has a fault decides. -/
theorem fault?_message (c : Category) (registry : Registry) (raw : RawMessage) :
    fault? (c.message registry raw) = firstFault (c.steps registry raw) := by
  cases c with
  | reply r =>
    have hread : fault? (Envelope.read raw registry) =
        firstFault ((Category.reply r).frameSteps registry raw ++ replySteps raw) :=
      fault?_frame (.reply r) (fun _ => rfl) fun _ _ _ =>
        fault?_bind fun _ _ => fault?_bind fun _ _ => fault?_bind fun _ _ => rfl
    show fault? ((Envelope.read raw registry).bind fun e => (r.content e).bind fun content =>
      .ok (replyMessage r e content)) = firstFault (_ ++ (_ ++ _))
    -- the envelope is one step here, and the row of its steps is that of the frame and that of every reply
    rw [← List.append_assoc]
    refine fault?_bind_append hread fun e he => ?_
    rw [Envelope.lookup_of_read he]
    show _ = firstFault (r.contentSteps raw e.charset)
    rw [← r.fault?_content (Envelope.read_eq_ok_iff.mp he)]
    cases r.content e <;> rfl
  | lifecycle phase => exact fault?_frame (.lifecycle phase) (fun _ => rfl) fun _ _ _ => rfl

end Category

/-! ### What becomes of a message -/

/-- The kind of a message, as categories name it. -/
def Message.kind : Message → String
  | .reply _ _ _ _ (.keystore _) => "KeystoreResponseMessage"
  | .reply _ _ _ _ (.inventory _) => "InventoryResponseMessage"
  | .reply _ _ _ _ (.command _) => "CommandResponseMessage"
  | .notification _ ⟨_, _, .missing⟩ _ _ => "MissingMessage"

/-- The message is one of the category, and says of itself what the raw message says. -/
structure Message.Answers (m : Message) (c : Category) (raw : RawMessage) : Prop where
  category : m.head.category = c.tag
  kind : m.kind = c.messageKind
  connectorName : m.head.connectorName = raw.connectorName
  receivedOn : m.head.receivedOn = raw.receivedOn
  sentOn : m.head.sentOn = raw.sentOn

theorem ReplyCategory.kind_of_content {c : ReplyCategory} {e : Envelope} {content : ReplyContent}
    (h : c.content e = .ok content) : (Category.replyMessage c e content).kind = (Category.reply c).messageKind := by
  cases c <;> obtain ⟨x, -, rfl⟩ := map_eq_ok.mp h <;> rfl

theorem Category.answers_of_message {c : Category} {registry : Registry} {raw : RawMessage} {m : Message}
    (h : c.message registry raw = .ok m) : m.Answers c raw := by
  cases c with
  | reply r =>
    obtain ⟨e, he, h⟩ := bind_eq_ok.mp h
    obtain ⟨content, hcontent, h⟩ := bind_eq_ok.mp h
    obtain rfl := Except.ok.inj h
    have hraw := (Envelope.read_eq_ok_iff.mp he).raw
    refine ⟨rfl, ReplyCategory.kind_of_content hcontent, ?_, ?_, ?_⟩
    · exact congrArg RawMessage.connectorName hraw
    · exact congrArg RawMessage.receivedOn hraw
    · exact congrArg RawMessage.sentOn hraw
  | lifecycle phase =>
    obtain ⟨d, -, h⟩ := bind_eq_ok.mp h
    obtain ⟨channel, -, h⟩ := bind_eq_ok.mp h
    obtain rfl := Except.ok.inj h
    -- there is one phase only
    obtain ⟨account, clientId, ⟨⟩⟩ := channel
    cases phase
    exact ⟨rfl, rfl, rfl, rfl, rfl⟩

/-- Under a tag of no category there is no translator. Under the tag of a category, a message without faults is
translated to a message of the category, and any other is rejected for the first of its faults, which is no rejection
itself. -/
theorem TranslatorTable.translate_by_first_fault (registry : Registry) (tag : String) (raw : RawMessage) :
    ((full registry).translate tag raw = .error (.notFound tag) ↔ ∀ c : Category, c.tag ≠ tag) ∧
      ∀ c : Category,
        ((∀ step ∈ c.steps registry raw, step = none) ∧
            ∃ m, (full registry).translate c.tag raw = .ok m ∧ m.Answers c raw) ∨
          ∃ front cause back, c.steps registry raw = front ++ some cause :: back ∧
            (∀ step ∈ front, step = none) ∧
            (full registry).translate c.tag raw = .error (.rejected cause raw) ∧
            cause.kindName ≠ (Failure.rejected cause raw).kindName := by
  refine ⟨?_, fun c => ?_⟩
  · rw [translate_full]
    constructor
    · rintro h c rfl
      rw [c.ofTag?_tag] at h
      obtain ⟨cause, -, heq⟩ := mapError_eq_error.mp h
      cases heq
    · intro h
      have hnone : Category.ofTag? tag = none := by
        refine List.find?_eq_none.mpr fun c _ hc => ?_
        exact h c (of_decide_eq_true hc)
      rw [hnone]
  · have hfirst := c.fault?_message registry raw
    rw [translate_full_tag]
    cases hsteps : firstFault (c.steps registry raw) with
    | none =>
      obtain ⟨m, hm⟩ := fault?_eq_none_iff.mp (hfirst.trans hsteps)
      rw [hm]
      exact Or.inl ⟨firstFault_eq_none_iff.mp hsteps, m, rfl, Category.answers_of_message hm⟩
    | some cause =>
      have hcause := fault?_eq_some_iff.mp (hfirst.trans hsteps)
      obtain ⟨front, back, heq, hfront⟩ := firstFault_eq_some_iff.mp hsteps
      have hplain := c.failsOnly_isPlain registry raw cause hcause
      rw [hcause]
      exact Or.inr ⟨front, cause, back, heq, hfront, rfl, hplain.kindName_ne cause raw⟩

end DeviceRelay
