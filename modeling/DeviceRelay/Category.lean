import DeviceRelay.Envelope
import DeviceRelay.Failure
import DeviceRelay.Inventory.Reading
import DeviceRelay.Keystore.Reading
import DeviceRelay.Message

/-!
# Categories

A category says what a message is about. Nine are replies: their envelope is read first, then the body,
or for commands the metrics. One is a notification, which shares with replies only the connector's
descriptor.

    reply         envelope → content
    notification  descriptor → lifecycle channel
-/

namespace DeviceRelay

/-- What a reply is about. -/
inductive ReplyCategory where
  | keystores
  | keystoreItems
  | keystoreItem
  | keystoreRequest
  | inventoryItems
  | inventoryBundles
  | inventoryContainers
  | inventoryPackages
  | command
  deriving Repr, DecidableEq

namespace ReplyCategory

/-- The tag of a category. -/
def tag : ReplyCategory → String
  | .keystores => "keystore.keystores"
  | .keystoreItems => "keystore.items"
  | .keystoreItem => "keystore.item"
  | .keystoreRequest => "keystore.csr"
  | .inventoryItems => "inventory.items"
  | .inventoryBundles => "inventory.bundles"
  | .inventoryContainers => "inventory.containers"
  | .inventoryPackages => "inventory.packages"
  | .command => "command.exec"

/-- The reply categories. -/
def all : List ReplyCategory :=
  [.keystores, .keystoreItems, .keystoreItem, .keystoreRequest, .inventoryItems,
    .inventoryBundles, .inventoryContainers, .inventoryPackages, .command]

/-- Read the content of a body, if there is a body. -/
def ofBody {α : Type} (read : Bytes → LooseText → Except Fault α) (e : Envelope) :
    Except Fault (Option α) :=
  match e.raw.content? with
  | none => .ok none
  | some body => (read body e.charset).map some

/-- The content of a reply whose envelope has been read. -/
def content (c : ReplyCategory) (e : Envelope) : Except Fault ReplyContent :=
  match c with
  | .keystores =>
    (ofBody Keystore.readStores e).map fun x => .keystore { KeystoreContent.empty with stores := x }
  | .keystoreItems =>
    (ofBody Keystore.readItems e).map fun x => .keystore { KeystoreContent.empty with items := x }
  | .keystoreItem =>
    (ofBody Keystore.readItem e).map fun x => .keystore { KeystoreContent.empty with item := x }
  | .keystoreRequest =>
    (ofBody Keystore.readRequest e).map fun x =>
      .keystore { KeystoreContent.empty with request := x }
  | .inventoryItems =>
    (ofBody Inventory.readItems e).map fun x =>
      .inventory { InventoryContent.empty with items := x }
  | .inventoryBundles =>
    (ofBody Inventory.readBundles e).map fun x =>
      .inventory { InventoryContent.empty with bundles := x }
  | .inventoryContainers =>
    (ofBody Inventory.readContainers e).map fun x =>
      .inventory { InventoryContent.empty with containers := x }
  | .inventoryPackages =>
    (ofBody Inventory.readPackages e).map fun x =>
      .inventory { InventoryContent.empty with packages := x }
  | .command => (CommandResult.read e.metrics).map .command

end ReplyCategory

/-- What a message is about. -/
inductive Category where
  | reply (category : ReplyCategory)
  | lifecycle (phase : LifecyclePhase)
  deriving Repr, DecidableEq

namespace Category

/-- The tag of a category. -/
def tag : Category → String
  | .reply c => c.tag
  | .lifecycle .missing => "lifecycle.missing"

/-- The categories. -/
def all : List Category := ReplyCategory.all.map .reply ++ [.lifecycle .missing]

/-- The category of a tag. -/
def ofTag? (tag : String) : Option Category := all.find? fun c => c.tag = tag

/-- What a message says of itself under a category. -/
def head (c : Category) (raw : RawMessage) (clientId : String) : MessageHead :=
  ⟨c.tag, raw.connectorName, clientId, raw.receivedOn, raw.sentOn⟩

/-- The message of a reply. -/
def replyMessage (c : ReplyCategory) (e : Envelope) (content : ReplyContent) : Message :=
  .reply (head (.reply c) e.raw e.channel.clientId) e.channel e.code
    ⟨e.exceptionMessage, e.exceptionStack, e.metrics⟩ content

/-- The message that a raw message becomes, or the first thing that is wrong with it. -/
def message (c : Category) (registry : Registry) (raw : RawMessage) : Except Fault Message :=
  match c with
  | .reply r => do
    let e ← Envelope.read raw registry
    let content ← r.content e
    .ok (replyMessage r e content)
  | .lifecycle phase => do
    let descriptor ← (Envelope.resolve raw registry).mapError .envelope
    let channel ← (LifecycleChannel.read raw.topic descriptor phase).mapError .envelope
    .ok (.notification (head c raw channel.clientId) channel raw.metrics raw.content?)

/-- The kind of messages of a category. -/
def messageKind : Category → String
  | .reply .command => "CommandResponseMessage"
  | .reply .keystores | .reply .keystoreItems | .reply .keystoreItem | .reply .keystoreRequest =>
    "KeystoreResponseMessage"
  | .reply .inventoryItems | .reply .inventoryBundles | .reply .inventoryContainers
  | .reply .inventoryPackages => "InventoryResponseMessage"
  | .lifecycle .missing => "MissingMessage"

end Category

end DeviceRelay
