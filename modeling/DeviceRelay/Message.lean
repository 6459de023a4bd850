import DeviceRelay.Command
import DeviceRelay.Inventory
import DeviceRelay.Keystore
import DeviceRelay.LifecycleChannel
import DeviceRelay.RawMessage
import DeviceRelay.ReplyChannel
import DeviceRelay.ResponseCode

/-!
# Messages

What a raw message becomes. A reply carries the channel, the response code and a payload of one of
three kinds; a notification tells that a device went missing and keeps the metrics and the body as they
came. Every field of a payload is either there as a whole or missing.
-/

namespace DeviceRelay

/-- What every reply says beside its content. -/
structure ReplyRemarks where
  exceptionMessage : Option String
  exceptionStack : Option String
  metrics : Dictionary Value

/-- What a device says about its keystores. -/
structure KeystoreContent where
  stores : Option (List Keystore.Store)
  items : Option (List Keystore.Item)
  item : Option Keystore.Item
  request : Option Keystore.SigningRequest
  deriving Repr, DecidableEq

/-- What a device says about the software on it. -/
structure InventoryContent where
  items : Option (List Inventory.Item)
  bundles : Option (List Inventory.Bundle)
  containers : Option (List Inventory.Container)
  packages : Option (List Inventory.Package)
  deriving Repr, DecidableEq

/-- Nothing said about keystores. -/
def KeystoreContent.empty : KeystoreContent := ⟨none, none, none, none⟩

/-- Nothing said about software. -/
def InventoryContent.empty : InventoryContent := ⟨none, none, none, none⟩

/-- The content of a reply. -/
inductive ReplyContent where
  | keystore (content : KeystoreContent)
  | inventory (content : InventoryContent)
  | command (result : Option CommandResult)
  deriving Repr, DecidableEq

/-- What a message says of itself, whatever its kind. -/
structure MessageHead where
  category : String
  connectorName : String
  clientId : String
  receivedOn : Timestamp
  sentOn : Option Timestamp
  deriving Repr, DecidableEq

/-- A message. -/
inductive Message where
  | reply (head : MessageHead) (channel : ReplyChannel) (code : ResponseCode)
      (remarks : ReplyRemarks) (content : ReplyContent)
  | notification (head : MessageHead) (channel : LifecycleChannel) (metrics : Dictionary Value)
      (body : Option Bytes)

namespace Message

/-- What the message says of itself. -/
def head : Message → MessageHead
  | .reply head _ _ _ _ => head
  | .notification head _ _ _ => head

/-- The message in a few words. -/
def describe : Message → String
  | .reply head _ code _ _ => head.category ++ " " ++ code.text
  | .notification head channel _ _ => head.category ++ " " ++ channel.phase.text

/-! ### As records -/

/-- The members that a head contributes. -/
def headMembers (h : MessageHead) : List (String × Json) :=
  [("category", .str h.category), ("connector_name", .str h.connectorName),
    ("client_id", .str h.clientId), ("received_on", .str h.receivedOn.text),
    ("sent_on", .ofText? (h.sentOn.map Timestamp.text))]

/-- The members that remarks contribute. -/
def remarkMembers (r : ReplyRemarks) : Except RecordFault (List (String × Json)) :=
  (RawMessage.dumpValues r.metrics).map fun metrics =>
    [("exception_message", .ofText? r.exceptionMessage),
      ("exception_stack", .ofText? r.exceptionStack), ("metrics", metrics)]

/-- A part that may be missing. -/
def part {α : Type} (f : α → Json) (a : Option α) : Json := (a.map f).getD .null

/-- A list that may be missing. -/
def listPart {α : Type} (f : α → Json) (as : Option (List α)) : Json :=
  part (fun as => .arr (as.map f)) as

/-- The members that the content contributes. -/
def contentMembers : ReplyContent → List (String × Json)
  | .keystore c =>
    [("keystores", listPart Keystore.Store.dump c.stores),
      ("keystore_items", listPart Keystore.Item.dump c.items),
      ("keystore_item", part Keystore.Item.dump c.item),
      ("csr", part Keystore.SigningRequest.dump c.request)]
  | .inventory c =>
    [("inventory_items", listPart Inventory.Item.dump c.items),
      ("bundles", listPart Inventory.Bundle.dump c.bundles),
      ("containers", listPart Inventory.Container.dump c.containers),
      ("system_packages", listPart Inventory.Package.dump c.packages)]
  | .command result => [("command_output", part CommandResult.dump result)]

/-- A message as a record, if its metrics have a form. -/
def dump : Message → Except RecordFault Json
  | .reply head channel code remarks content =>
    (remarkMembers remarks).map fun remarks =>
      .obj (headMembers head ++ [("channel", channel.dump), ("response_code", .str code.text),
        ("payload", .obj (remarks ++ contentMembers content))])
  | .notification head channel metrics body =>
    (RawMessage.dumpValues metrics).map fun metrics =>
      .obj (headMembers head ++ [("channel", channel.dump),
        ("payload", .obj [("metrics", metrics),
          ("body", part (fun b => .str (Hex.encode b)) (body.filter fun b => !b.isEmpty))])])

/-- The parts of the payload that may be missing, and whether they are there. -/
def parts : Message → List (String × Bool)
  | .reply _ _ _ _ (.keystore c) =>
    [("has_keystores", c.stores.isSome), ("has_items", c.items.isSome),
      ("has_item", c.item.isSome), ("has_csr", c.request.isSome)]
  | .reply _ _ _ _ (.inventory c) =>
    [("has_inventory_items", c.items.isSome), ("has_bundles", c.bundles.isSome),
      ("has_containers", c.containers.isSome), ("has_system_packages", c.packages.isSome)]
  | .reply _ _ _ _ (.command result) => [("has_command_output", result.isSome)]
  | .notification _ _ _ body => [("has_body", (body.filter fun b => !b.isEmpty).isSome)]

end Message

end DeviceRelay
