import DeviceRelay.Body

/-!
# Inventory documents

The documents in which a device lists the software on it. Each is an object with one member, the list.
A member that is null counts as one that is missing.
-/

namespace DeviceRelay.Inventory

/-- The shape of an item or package, whose kind has a name of its own. -/
def entrySchema (kindName : String) : Schema := .object <|
  .required "name" "name" .text <|
  .optional "version" "version" .text <|
  .optional "type" kindName .text .done

/-- The shape of a bundle. -/
def bundleSchema : Schema := .object <|
  .required "id" "id" .integer <|
  .required "name" "name" .text <|
  .optional "version" "version" .text <|
  .optional "state" "state" .text <|
  .optional "signed" "signed" .boolean .done

/-- The shape of a container. -/
def containerSchema : Schema := .object <|
  .required "name" "name" .text <|
  .optional "version" "version" .text <|
  .optional "type" "container_type" .text <|
  .optional "state" "state" .text .done

/-- An object whose one member is a list. -/
def listSchema (wire own : String) (entry : Schema) : Schema :=
  .object (.required wire own (.array entry) .done)

/-- The document of the items. -/
def itemsShape : Shape :=
  ⟨"KuraInventoryItems", listSchema "inventory" "inventory" (entrySchema "item_type")⟩

/-- The document of the bundles. -/
def bundlesShape : Shape := ⟨"KuraInventoryBundles", listSchema "bundles" "bundles" bundleSchema⟩

/-- The document of the containers. -/
def containersShape : Shape :=
  ⟨"KuraInventoryContainers", listSchema "containers" "containers" containerSchema⟩

/-- The document of the system packages. -/
def packagesShape : Shape :=
  ⟨"KuraInventoryPackages",
    listSchema "systemPackages" "system_packages" (entrySchema "package_type")⟩

/-- An item or package as a device describes it. -/
structure Entry where
  name : String
  version : Option String
  kind : Option String
  deriving Repr, DecidableEq

/-- A bundle as a device describes it. -/
structure BundleEntry where
  id : Int
  name : String
  version : Option String
  state : Option String
  signed : Option Bool
  deriving Repr, DecidableEq

/-- A container as a device describes it. -/
structure ContainerEntry where
  name : String
  version : Option String
  kind : Option String
  state : Option String
  deriving Repr, DecidableEq

/-- The entry of an item's or package's document. -/
def Entry.ofItem (row : String × Slot String × Slot String × Unit) : Entry :=
  let (name, version, kind, ()) := row
  ⟨name, version.value?, kind.value?⟩

/-- The entry of a bundle's document. -/
def BundleEntry.ofItem (row : Int × String × Slot String × Slot String × Slot Bool × Unit) :
    BundleEntry :=
  let (id, name, version, state, signed, ()) := row
  ⟨id, name, version.value?, state.value?, signed.value?⟩

/-- The entry of a container's document. -/
def ContainerEntry.ofItem (row : String × Slot String × Slot String × Slot String × Unit) :
    ContainerEntry :=
  let (name, version, kind, state, ()) := row
  ⟨name, version.value?, kind.value?, state.value?⟩

end DeviceRelay.Inventory
