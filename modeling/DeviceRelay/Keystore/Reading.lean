import DeviceRelay.Keystore
import DeviceRelay.Keystore.Document
import DeviceRelay.Text.Blank

/-!
# From keystore documents to keystores

Each entry is checked on its own and then mapped field by field; of several bad entries the first
decides. A signing request is no document but a text: blanks around it are dropped, and it has to begin
with one of two headers.
-/

namespace DeviceRelay.Keystore

/-- A size is not negative. -/
def checkSize (size : Option Int) : Except Fault Unit :=
  match size with
  | some n => if n < 0 then .error (.validation "size" s!"must not be negative, got {n}") else .ok ()
  | none => .ok ()

/-- The rules of a keystore. -/
def StoreEntry.check (e : StoreEntry) : Except Fault Unit :=
  if Text.isBlankText e.servicePid then .error (.validation "keystoreServicePid" "must not be empty")
  else checkSize e.size

/-- Both dates are given and the first is later. -/
def ItemEntry.endsBeforeStart (e : ItemEntry) : Bool :=
  match e.startDate, e.expirationDate with
  | some start, some expiration => expiration < start
  | _, _ => false

/-- The rules of an item. -/
def ItemEntry.check (e : ItemEntry) : Except Fault Unit :=
  if Text.isBlankText e.entryAlias then .error (.validation "alias" "must not be empty")
  else do
    checkSize e.size
    if (e.certificateChain.getD []).any Text.isBlankText then
      .error (.validation "certificateChain" "must not contain empty certificates")
    else if e.endsBeforeStart then .error (.validation "startDate" "is after expirationDate")
    else .ok ()

/-- The keystore that an entry describes. -/
def StoreEntry.translate (e : StoreEntry) : Except Fault Store := do
  e.check
  .ok ⟨e.servicePid, e.kind, e.size⟩

/-- A number of milliseconds as a timestamp, if it is given. -/
def dateOf (millis : Option Int) : Except Fault (Option Timestamp) :=
  match millis with
  | none => .ok none
  | some n => ((Timestamp.ofEpochMillis n).mapError .epoch).map some

/-- The item that an entry describes. -/
def ItemEntry.translate (e : ItemEntry) : Except Fault Item := do
  e.check
  let notBefore ← dateOf e.startDate
  let notAfter ← dateOf e.expirationDate
  .ok {
    storeId := e.servicePid
    entryAlias := e.entryAlias
    kind := e.kind
    size := e.size
    algorithm := e.algorithm
    subject := e.subject
    subjectNames := (e.subjectNames.getD []).map fun n => ⟨n.kind, n.value⟩
    issuer := e.issuer
    notBefore, notAfter
    certificate := e.certificate
    certificateChain := e.certificateChain.getD [] }

/-! ### Bodies -/

/-- The keystores that a body lists. -/
def readStores (body : Bytes) (charset : LooseText) : Except Fault (List Store) := do
  let rows : List (String × Slot String × Slot Int × Unit) ← Body.read (some body) storesShape charset
  rows.mapM fun row => (StoreEntry.ofItem row).translate

/-- The items that a body lists. -/
def readItems (body : Bytes) (charset : LooseText) : Except Fault (List Item) := do
  let rows : List itemSchema.Item ← Body.read (some body) itemsShape charset
  rows.mapM fun row => (ItemEntry.ofItem row).translate

/-- The item that a body describes. -/
def readItem (body : Bytes) (charset : LooseText) : Except Fault Item := do
  let row : itemSchema.Item ← Body.read (some body) itemShape charset
  (ItemEntry.ofItem row).translate

/-- The lines that a signing request may begin with. -/
def requestHeaders : List String :=
  ["-----BEGIN CERTIFICATE REQUEST-----", "-----BEGIN NEW CERTIFICATE REQUEST-----"]

/-- The signing request in a text. -/
def SigningRequest.ofText (text : List Char) : Except Fault SigningRequest :=
  let trimmed := Text.trim text
  if requestHeaders.any fun header => header.toList.isPrefixOf trimmed then
    .ok ⟨String.ofList trimmed⟩
  else .error (.validation "signingRequest" "is not a PEM certificate signing request")

/-- The signing request that a body holds. -/
def readRequest (body : Bytes) (charset : LooseText) : Except Fault SigningRequest := do
  let text ← Body.text (some body) charset
  SigningRequest.ofText text.toList

end DeviceRelay.Keystore
