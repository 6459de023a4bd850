import DeviceRelay.Body

/-!
# Keystore documents

The documents in which a device describes its keystores, and their members under names of this
library. A member that is null counts as one that is missing.
-/

namespace DeviceRelay.Keystore

/-- The shape of a keystore. -/
def storeSchema : Schema := .object <|
  .required "keystoreServicePid" "keystore_service_pid" .text <|
  .optional "type" "keystore_type" .text <|
  .optional "size" "size" .integer .done

/-- The shape of an alternative name. -/
def subjectNameSchema : Schema := .object <|
  .optional "type" "an_type" .text <|
  .optional "value" "value" .text .done

/-- The shape of an item. -/
def itemSchema : Schema := .object <|
  .optional "keystoreServicePid" "keystore_service_pid" .text <|
  .required "alias" "alias" .text <|
  .optional "type" "item_type" .text <|
  .optional "size" "size" .integer <|
  .optional "algorithm" "algorithm" .text <|
  .optional "subjectDN" "subject_dn" .text <|
  .optional "subjectAN" "subject_an" (.array subjectNameSchema) <|
  .optional "issuer" "issuer" .text <|
  .optional "startDate" "start_date" .integer <|
  .optional "expirationDate" "expiration_date" .integer <|
  .optional "certificate" "certificate" .text <|
  .optional "certificateChain" "certificate_chain" (.array .text) .done

/-- The document of one keystore. -/
def storeShape : Shape := ⟨"KuraKeystore", storeSchema⟩

/-- The document of all keystores. -/
def storesShape : Shape := ⟨"KuraKeystores", .array storeSchema⟩

/-- The document of one item. -/
def itemShape : Shape := ⟨"KuraKeystoreItem", itemSchema⟩

/-- The document of several items. -/
def itemsShape : Shape := ⟨"KuraKeystoreItems", .array itemSchema⟩

/-- A keystore as a device describes it. -/
structure StoreEntry where
  servicePid : String
  kind : Option String
  size : Option Int
  deriving Repr, DecidableEq

/-- An alternative name as a device describes it. -/
structure SubjectNameEntry where
  kind : Option String
  value : Option String
  deriving Repr, DecidableEq

/-- An item as a device describes it; its dates are milliseconds since 1970. -/
structure ItemEntry where
  servicePid : Option String
  entryAlias : String
  kind : Option String
  size : Option Int
  algorithm : Option String
  subject : Option String
  subjectNames : Option (List SubjectNameEntry)
  issuer : Option String
  startDate : Option Int
  expirationDate : Option Int
  certificate : Option String
  certificateChain : Option (List String)
  deriving Repr, DecidableEq

/-- The entry of a keystore's document. -/
def StoreEntry.ofItem (row : String × Slot String × Slot Int × Unit) : StoreEntry :=
  let (pid, kind, size, ()) := row
  ⟨pid, kind.value?, size.value?⟩

/-- The entry of an alternative name's document. -/
def SubjectNameEntry.ofItem (row : Slot String × Slot String × Unit) : SubjectNameEntry :=
  let (kind, value, ()) := row
  ⟨kind.value?, value.value?⟩

/-- The entry of an item's document. -/
def ItemEntry.ofItem
    (row : Slot String × String × Slot String × Slot Int × Slot String × Slot String ×
      Slot (List (Slot String × Slot String × Unit)) × Slot String × Slot Int × Slot Int ×
      Slot String × Slot (List String) × Unit) : ItemEntry :=
  let (pid, entryAlias, kind, size, algorithm, subject, names, issuer, start, expiration, certificate,
    chain, ()) := row
  { servicePid := pid.value?
    entryAlias
    kind := kind.value?
    size := size.value?
    algorithm := algorithm.value?
    subject := subject.value?
    subjectNames := names.value?.map (List.map SubjectNameEntry.ofItem)
    issuer := issuer.value?
    startDate := start.value?
    expirationDate := expiration.value?
    certificate := certificate.value?
    certificateChain := chain.value? }

end DeviceRelay.Keystore
