import DeviceRelay.Category
import DeviceRelay.Proofs.Inventory
import DeviceRelay.Proofs.Keystore

/-!
# Entries of lists

Six categories have a list for a body. What becomes of one entry is put down here as two tables, apart from the code
that does it: the rules that an entry has to keep, and for each field of its record the device's field that it comes
from and how.

    Acceptable   the rules of an entry
    fields       name in the message ◀── name on the device, copied or changed in one of three ways

* `ListCategory.translate_isOk_iff` — exactly the acceptable entries are translated.
* `ListCategory.record_partOf` — the record of an entry, field by field.
-/

namespace DeviceRelay

/-! ### Fields -/

/-- The value of a member, or null. -/
def Json.memberOf (name : String) : Json → Json
  | .obj members => (last? name members).getD .null
  | _ => .null

/-- What becomes of a value on its way into a message. -/
inductive Carriage where
  | copied
  /-- The name of a state, in capitals. -/
  | capital
  /-- Milliseconds as their date. -/
  | dated
  /-- A list, and an empty one if there is none. -/
  | listed
  deriving Repr, DecidableEq

/-- The value in the message. -/
def Carriage.carry : Carriage → Json → Json
  | .capital, .str s => .str (Text.upper s)
  | .dated, .int n => .ofText? ((Timestamp.ofEpochMillis n).toOption.map Timestamp.text)
  | .listed, .null => .arr []
  | _, v => v

/-- Where a field of a message comes from. -/
structure FieldOrigin where
  name : String
  source : String
  carriage : Carriage
  deriving Repr, DecidableEq

/-- The field of a message, from the device's record. -/
def FieldOrigin.of (record : Json) (f : FieldOrigin) : String × Json :=
  (f.name, f.carriage.carry (record.memberOf f.source))

/-! ### Rules -/

/-- The rules of a keystore. -/
structure Keystore.StoreEntry.Acceptable (e : StoreEntry) : Prop where
  pid_ne : Text.isBlankText e.servicePid = false
  size_nonneg : ∀ n ∈ e.size, 0 ≤ n

/-- The rules of a keystore's item. The last one is the calendar's. -/
structure Keystore.ItemEntry.Acceptable (e : ItemEntry) : Prop where
  alias_ne : Text.isBlankText e.entryAlias = false
  size_nonneg : ∀ n ∈ e.size, 0 ≤ n
  chain_ne : ∀ chain ∈ e.certificateChain, ∀ certificate ∈ chain, Text.isBlankText certificate = false
  dates_le : ∀ start ∈ e.startDate, ∀ expiration ∈ e.expirationDate, start ≤ expiration
  dates : e.InCalendar

/-- The rules of a bundle. -/
structure Inventory.BundleEntry.Acceptable (e : BundleEntry) : Prop where
  name_ne : Text.isBlankText e.name = false
  id_nonneg : 0 ≤ e.id

/-- The rules of a container. -/
structure Inventory.ContainerEntry.Acceptable (e : ContainerEntry) : Prop where
  name_ne : Text.isBlankText e.name = false
  state_mem : ∀ state ∈ e.state, Text.upper state ∈ containerStates

theorem Keystore.StoreEntry.translate_eq_ok_iff {e : StoreEntry} {s : Store} :
    e.translate = .ok s ↔ e.Acceptable ∧ ⟨e.servicePid, e.kind, e.size⟩ = s := by
  refine check_bind_eq_ok.trans ?_
  rw [check, ite_error_eq_ok, checkSize_eq_ok_iff, Bool.not_eq_true, Except.ok.injEq]
  refine and_congr_left fun _ => ?_
  constructor
  · rintro ⟨hpid, hsize⟩
    exact ⟨hpid, hsize⟩
  · rintro ⟨hpid, hsize⟩
    exact ⟨hpid, hsize⟩

/-- The date of milliseconds, as far as they have one. -/
def Keystore.dateIn (millis : Option Int) : Option Timestamp :=
  millis.bind fun n => (Timestamp.ofEpochMillis n).toOption

theorem Keystore.dateOf_eq_ok_iff {millis : Option Int} {t : Option Timestamp} :
    dateOf millis = .ok t ↔ (∀ n ∈ millis, Timestamp.InCalendar n) ∧ dateIn millis = t := by
  rw [← dateOf_isOk_iff]
  cases millis with
  | none => simp [dateOf, dateIn]
  | some n => cases h : Timestamp.ofEpochMillis n <;> simp [dateOf, dateIn, h, Except.map, Except.mapError, Except.toOption]

/-- The item with the fields of an entry. -/
def Keystore.ItemEntry.toItem (e : ItemEntry) : Item where
  storeId := e.servicePid
  entryAlias := e.entryAlias
  kind := e.kind
  size := e.size
  algorithm := e.algorithm
  subject := e.subject
  subjectNames := (e.subjectNames.getD []).map fun n => ⟨n.kind, n.value⟩
  issuer := e.issuer
  notBefore := dateIn e.startDate
  notAfter := dateIn e.expirationDate
  certificate := e.certificate
  certificateChain := e.certificateChain.getD []

theorem Keystore.ItemEntry.translate_eq_ok_iff {e : ItemEntry} {i : Item} :
    e.translate = .ok i ↔ e.Acceptable ∧ e.toItem = i := by
  have hchain : (∀ certificate ∈ e.certificateChain.getD [], Text.isBlankText certificate = false) ↔
      ∀ chain ∈ e.certificateChain, ∀ certificate ∈ chain, Text.isBlankText certificate = false := by
    cases e.certificateChain <;> simp
  refine check_bind_eq_ok.trans ?_
  rw [check_eq_ok_iff, hchain]
  constructor
  · rintro ⟨⟨halias, hsize, hcertificates, hdates⟩, h⟩
    obtain ⟨notBefore, hbefore, h⟩ := bind_eq_ok.mp h
    obtain ⟨notAfter, hafter, h⟩ := bind_eq_ok.mp h
    obtain ⟨hstart, rfl⟩ := dateOf_eq_ok_iff.mp hbefore
    obtain ⟨hexpiration, rfl⟩ := dateOf_eq_ok_iff.mp hafter
    exact ⟨⟨halias, hsize, hcertificates, hdates, hstart, hexpiration⟩, Except.ok.inj h⟩
  · rintro ⟨⟨halias, hsize, hcertificates, hdates, hstart, hexpiration⟩, rfl⟩
    refine ⟨⟨halias, hsize, hcertificates, hdates⟩, ?_⟩
    apply bind_eq_ok.mpr ⟨_, dateOf_eq_ok_iff.mpr ⟨hstart, rfl⟩, ?_⟩
    exact bind_eq_ok.mpr ⟨_, dateOf_eq_ok_iff.mpr ⟨hexpiration, rfl⟩, rfl⟩

/-- An item or a package has no rule but the one about its name. -/
theorem Inventory.checkName_bind_eq_ok_iff {α : Type} {field name : String} {a b : α} :
    ((checkName field name).bind fun _ => .ok a) = .ok b ↔ Text.isBlankText name = false ∧ a = b := by
  rw [check_bind_eq_ok, checkName_eq_ok_iff, Except.ok.injEq]

theorem Inventory.BundleEntry.translate_eq_ok_iff {e : BundleEntry} {b : Bundle} :
    e.translate = .ok b ↔ e.Acceptable ∧ ⟨e.id, e.name, e.version, e.state, e.signed⟩ = b := by
  refine check_bind_eq_ok.trans ?_
  rw [checkName_eq_ok_iff, ite_error_eq_ok, Int.not_lt, Except.ok.injEq]
  constructor
  · rintro ⟨hname, hid, rfl⟩
    exact ⟨⟨hname, hid⟩, rfl⟩
  · rintro ⟨⟨hname, hid⟩, rfl⟩
    exact ⟨hname, hid, rfl⟩

theorem Inventory.stateOf_eq_ok_iff {state result : Option String} :
    stateOf state = .ok result ↔ (∀ s ∈ state, Text.upper s ∈ containerStates) ∧ state.map Text.upper = result := by
  cases state with
  | none => simp [stateOf]
  | some s =>
    unfold stateOf
    by_cases h : Text.upper s ∈ containerStates <;> simp [h]

theorem Inventory.ContainerEntry.translate_eq_ok_iff {e : ContainerEntry} {c : Container} :
    e.translate = .ok c ↔ e.Acceptable ∧ ⟨e.name, e.version, e.kind, e.state.map Text.upper⟩ = c := by
  refine check_bind_eq_ok.trans ?_
  rw [checkName_eq_ok_iff]
  constructor
  · rintro ⟨hname, h⟩
    obtain ⟨state, hstate, h⟩ := bind_eq_ok.mp h
    obtain ⟨hmem, rfl⟩ := stateOf_eq_ok_iff.mp hstate
    exact ⟨⟨hname, hmem⟩, Except.ok.inj h⟩
  · rintro ⟨⟨hname, hstate⟩, rfl⟩
    exact ⟨hname, bind_eq_ok.mpr ⟨_, stateOf_eq_ok_iff.mpr ⟨hstate, rfl⟩, rfl⟩⟩

/-! ### Categories -/

/-- The categories that have a list for a body. -/
inductive ListCategory where
  | stores
  | storeItems
  | items
  | bundles
  | containers
  | packages
  deriving Repr, DecidableEq

namespace ListCategory

/-- The category of the replies. -/
def reply : ListCategory → ReplyCategory
  | .stores => .keystores
  | .storeItems => .keystoreItems
  | .items => .inventoryItems
  | .bundles => .inventoryBundles
  | .containers => .inventoryContainers
  | .packages => .inventoryPackages

/-- The shape of a body. -/
def shape : ListCategory → Shape
  | .stores => Keystore.storesShape
  | .storeItems => Keystore.itemsShape
  | .items => Inventory.itemsShape
  | .bundles => Inventory.bundlesShape
  | .containers => Inventory.containersShape
  | .packages => Inventory.packagesShape

/-- The shape of an entry. -/
def entry : ListCategory → Schema
  | .stores => Keystore.storeSchema
  | .storeItems => Keystore.itemSchema
  | .items => Inventory.entrySchema "item_type"
  | .bundles => Inventory.bundleSchema
  | .containers => Inventory.containerSchema
  | .packages => Inventory.entrySchema "package_type"

/-- The entries of a body. A keystore's are the body itself, and those of an inventory its only member. -/
def rows : (l : ListCategory) → l.shape.Item → List l.entry.Item
  | .stores, (rows : List Keystore.storeSchema.Item) => rows
  | .storeItems, (rows : List Keystore.itemSchema.Item) => rows
  | .items, (body : List (Inventory.entrySchema "item_type").Item × Unit) => body.1
  | .bundles, (body : List Inventory.bundleSchema.Item × Unit) => body.1
  | .containers, (body : List Inventory.containerSchema.Item × Unit) => body.1
  | .packages, (body : List (Inventory.entrySchema "package_type").Item × Unit) => body.1

/-- What an entry becomes. -/
def Part : ListCategory → Type
  | .stores => Keystore.Store
  | .storeItems => Keystore.Item
  | .items => Inventory.Item
  | .bundles => Inventory.Bundle
  | .containers => Inventory.Container
  | .packages => Inventory.Package

/-- The translation of an entry on its own. -/
def translate : (l : ListCategory) → l.entry.Item → Except Fault l.Part
  | .stores, row => (Keystore.StoreEntry.ofItem row).translate
  | .storeItems, row => (Keystore.ItemEntry.ofItem row).translate
  | .items, row => (Inventory.Entry.ofItem row).toItem
  | .bundles, row => (Inventory.BundleEntry.ofItem row).translate
  | .containers, row => (Inventory.ContainerEntry.ofItem row).translate
  | .packages, row => (Inventory.Entry.ofItem row).toPackage

/-- The content of a reply with a list. -/
def contentOf : (l : ListCategory) → List l.Part → ReplyContent
  | .stores, parts => .keystore { KeystoreContent.empty with stores := some parts }
  | .storeItems, parts => .keystore { KeystoreContent.empty with items := some parts }
  | .items, parts => .inventory { InventoryContent.empty with items := some parts }
  | .bundles, parts => .inventory { InventoryContent.empty with bundles := some parts }
  | .containers, parts => .inventory { InventoryContent.empty with containers := some parts }
  | .packages, parts => .inventory { InventoryContent.empty with packages := some parts }

/-- What an entry becomes, as a record. -/
def record : (l : ListCategory) → l.Part → Json
  | .stores, (store : Keystore.Store) => store.dump
  | .storeItems, (item : Keystore.Item) => item.dump
  | .items, (item : Inventory.Item) => item.dump
  | .bundles, (bundle : Inventory.Bundle) => bundle.dump
  | .containers, (container : Inventory.Container) => container.dump
  | .packages, (package : Inventory.Package) => package.dump

/-- The rules of an entry. -/
def Acceptable : (l : ListCategory) → l.entry.Item → Prop
  | .stores, row => (Keystore.StoreEntry.ofItem row).Acceptable
  | .storeItems, row => (Keystore.ItemEntry.ofItem row).Acceptable
  | .items, row => Text.isBlankText (Inventory.Entry.ofItem row).name = false
  | .bundles, row => (Inventory.BundleEntry.ofItem row).Acceptable
  | .containers, row => (Inventory.ContainerEntry.ofItem row).Acceptable
  | .packages, row => Text.isBlankText (Inventory.Entry.ofItem row).name = false

/-- The fields of the record, and where they come from. -/
def fields : ListCategory → List FieldOrigin
  | .stores =>
    [⟨"id", "keystore_service_pid", .copied⟩, ⟨"keystore_type", "keystore_type", .copied⟩, ⟨"size", "size", .copied⟩]
  | .storeItems =>
    [⟨"keystore_id", "keystore_service_pid", .copied⟩, ⟨"alias", "alias", .copied⟩, ⟨"item_type", "item_type", .copied⟩,
      ⟨"size", "size", .copied⟩, ⟨"algorithm", "algorithm", .copied⟩, ⟨"subject_dn", "subject_dn", .copied⟩,
      ⟨"subject_an", "subject_an", .listed⟩, ⟨"issuer", "issuer", .copied⟩, ⟨"not_before", "start_date", .dated⟩,
      ⟨"not_after", "expiration_date", .dated⟩, ⟨"certificate", "certificate", .copied⟩,
      ⟨"certificate_chain", "certificate_chain", .listed⟩]
  | .items => [⟨"name", "name", .copied⟩, ⟨"version", "version", .copied⟩, ⟨"item_type", "item_type", .copied⟩]
  | .bundles =>
    [⟨"id", "id", .copied⟩, ⟨"name", "name", .copied⟩, ⟨"version", "version", .copied⟩, ⟨"status", "state", .copied⟩,
      ⟨"signed", "signed", .copied⟩]
  | .containers =>
    [⟨"name", "name", .copied⟩, ⟨"version", "version", .copied⟩, ⟨"container_type", "container_type", .copied⟩,
      ⟨"state", "state", .capital⟩]
  | .packages => [⟨"name", "name", .copied⟩, ⟨"version", "version", .copied⟩, ⟨"package_type", "package_type", .copied⟩]

/-- What an entry that keeps the rules becomes. -/
def partOf : (l : ListCategory) → l.entry.Item → l.Part
  | .stores, row =>
    let e := Keystore.StoreEntry.ofItem row
    (⟨e.servicePid, e.kind, e.size⟩ : Keystore.Store)
  | .storeItems, row => (Keystore.ItemEntry.ofItem row).toItem
  | .items, row =>
    let e := Inventory.Entry.ofItem row
    (⟨e.name, e.version, e.kind⟩ : Inventory.Item)
  | .bundles, row =>
    let e := Inventory.BundleEntry.ofItem row
    (⟨e.id, e.name, e.version, e.state, e.signed⟩ : Inventory.Bundle)
  | .containers, row =>
    let e := Inventory.ContainerEntry.ofItem row
    (⟨e.name, e.version, e.kind, e.state.map Text.upper⟩ : Inventory.Container)
  | .packages, row =>
    let e := Inventory.Entry.ofItem row
    (⟨e.name, e.version, e.kind⟩ : Inventory.Package)

/-- Exactly the entries that keep the rules are translated. -/
theorem translate_eq_ok_iff (l : ListCategory) (row : l.entry.Item) (part : l.Part) :
    l.translate row = .ok part ↔ l.Acceptable row ∧ l.partOf row = part := by
  cases l with
  | stores => exact Keystore.StoreEntry.translate_eq_ok_iff
  | storeItems => exact Keystore.ItemEntry.translate_eq_ok_iff
  | items => exact Inventory.checkName_bind_eq_ok_iff
  | bundles => exact Inventory.BundleEntry.translate_eq_ok_iff
  | containers => exact Inventory.ContainerEntry.translate_eq_ok_iff
  | packages => exact Inventory.checkName_bind_eq_ok_iff

/-! ### Records -/

/-- The names of a subject have the same members on both sides. -/
theorem dump_subjectNames (names : List Keystore.subjectNameSchema.Item) :
    ((List.map Keystore.SubjectNameEntry.ofItem names).map fun n => (⟨n.kind, n.value⟩ : Keystore.SubjectName)).map
      Keystore.SubjectName.dump = names.map Keystore.subjectNameSchema.dump := by
  induction names with
  | nil => rfl
  | cons row rest ih =>
    obtain ⟨kind, value, ⟨⟩⟩ := row
    exact congrArg (List.cons _) ih

/-- The fields of a keystore's item that are not copied: two dates, and two lists that may be missing. -/
theorem record_toItem (row : Keystore.itemSchema.Item) :
    (Keystore.ItemEntry.ofItem row).toItem.dump =
      .obj (fields .storeItems |>.map (FieldOrigin.of (Keystore.itemSchema.dump row))) := by
  generalize he : Keystore.ItemEntry.ofItem row = e
  have hnames : Json.arr (e.toItem.subjectNames.map Keystore.SubjectName.dump) =
      Carriage.listed.carry ((Keystore.itemSchema.dump row).memberOf "subject_an") := by
    obtain ⟨pid, name, kind, size, algorithm, subject, names, more⟩ := row
    subst he
    cases names with
    | absent => rfl
    | null => rfl
    | given names => exact congrArg Json.arr (dump_subjectNames names)
  have hchain : Json.arr (e.toItem.certificateChain.map .str) =
      Carriage.listed.carry ((Keystore.itemSchema.dump row).memberOf "certificate_chain") := by
    obtain ⟨pid, name, kind, size, algorithm, subject, names, issuer, start, expiration, certificate, chain, ⟨⟩⟩ := row
    subst he
    cases chain <;> rfl
  have hstart : Json.ofText? (e.toItem.notBefore.map Timestamp.text) =
      Carriage.dated.carry ((Keystore.itemSchema.dump row).memberOf "start_date") := by
    obtain ⟨pid, name, kind, size, algorithm, subject, names, issuer, start, more⟩ := row
    subst he
    cases start <;> rfl
  have hexpiration : Json.ofText? (e.toItem.notAfter.map Timestamp.text) =
      Carriage.dated.carry ((Keystore.itemSchema.dump row).memberOf "expiration_date") := by
    obtain ⟨pid, name, kind, size, algorithm, subject, names, issuer, start, expiration, more⟩ := row
    subst he
    cases expiration <;> rfl
  rw [Keystore.Item.dump, hnames, hchain, hstart, hexpiration]
  subst he
  rfl

/-- The record of a part has the fields of its category, each from the device's field that it belongs to. -/
theorem record_partOf (l : ListCategory) (row : l.entry.Item) :
    l.record (l.partOf row) = .obj (l.fields.map (FieldOrigin.of (l.entry.dump row))) := by
  cases l with
  | stores =>
    obtain ⟨pid, kind, size, ⟨⟩⟩ := row
    rfl
  | storeItems => exact record_toItem row
  | items =>
    obtain ⟨name, version, kind, ⟨⟩⟩ := row
    rfl
  | bundles =>
    obtain ⟨id, name, version, state, signed, ⟨⟩⟩ := row
    rfl
  | containers =>
    obtain ⟨name, version, kind, state, ⟨⟩⟩ := row
    cases state <;> rfl
  | packages =>
    obtain ⟨name, version, kind, ⟨⟩⟩ := row
    rfl

end ListCategory

end DeviceRelay
