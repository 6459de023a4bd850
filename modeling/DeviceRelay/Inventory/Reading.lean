import DeviceRelay.Inventory
import DeviceRelay.Inventory.Document
import DeviceRelay.Text.Blank
import DeviceRelay.Text.LetterCase

/-!
# From inventory documents to inventories

Each entry is checked on its own and then mapped field by field; of several bad entries the first
decides. The state of a container is one of four names, in any letter case.
-/

namespace DeviceRelay.Inventory

/-- A name is not blank; `field` is the list that a fault names. -/
def checkName (field name : String) : Except Fault Unit :=
  if Text.isBlankText name then .error (.validation field "name must not be empty") else .ok ()

/-- The item that an entry describes. -/
def Entry.toItem (e : Entry) : Except Fault Item := do
  checkName "inventory" e.name
  .ok ⟨e.name, e.version, e.kind⟩

/-- The package that an entry describes. -/
def Entry.toPackage (e : Entry) : Except Fault Package := do
  checkName "systemPackages" e.name
  .ok ⟨e.name, e.version, e.kind⟩

/-- The bundle that an entry describes. -/
def BundleEntry.translate (e : BundleEntry) : Except Fault Bundle := do
  checkName "bundles" e.name
  if e.id < 0 then .error (.validation "bundles.id" s!"must not be negative, got {e.id}")
  else .ok ⟨e.id, e.name, e.version, e.state, e.signed⟩

/-- The states of a container. -/
def containerStates : List String := ["ACTIVE", "INSTALLED", "UNINSTALLED", "UNKNOWN"]

/-- The state that a name in any letter case means. -/
def stateOf (state : Option String) : Except Fault (Option String) :=
  match state with
  | none => .ok none
  | some s =>
    if containerStates.contains (Text.upper s) then .ok (some (Text.upper s))
    else .error (.validation "containers.state" s!"unknown container state '{s}'")

/-- The container that an entry describes. -/
def ContainerEntry.translate (e : ContainerEntry) : Except Fault Container := do
  checkName "containers" e.name
  let state ← stateOf e.state
  .ok ⟨e.name, e.version, e.kind, state⟩

/-! ### Bodies -/

/-- The items that a body lists. -/
def readItems (body : Bytes) (charset : LooseText) : Except Fault (List Item) := do
  let (rows, _) : List (String × Slot String × Slot String × Unit) × Unit ←
    Body.read (some body) itemsShape charset
  rows.mapM fun row => (Entry.ofItem row).toItem

/-- The bundles that a body lists. -/
def readBundles (body : Bytes) (charset : LooseText) : Except Fault (List Bundle) := do
  let (rows, _) : List bundleSchema.Item × Unit ← Body.read (some body) bundlesShape charset
  rows.mapM fun row => (BundleEntry.ofItem row).translate

/-- The containers that a body lists. -/
def readContainers (body : Bytes) (charset : LooseText) : Except Fault (List Container) := do
  let (rows, _) : List containerSchema.Item × Unit ← Body.read (some body) containersShape charset
  rows.mapM fun row => (ContainerEntry.ofItem row).translate

/-- The system packages that a body lists. -/
def readPackages (body : Bytes) (charset : LooseText) : Except Fault (List Package) := do
  let (rows, _) : List (String × Slot String × Slot String × Unit) × Unit ←
    Body.read (some body) packagesShape charset
  rows.mapM fun row => (Entry.ofItem row).toPackage

end DeviceRelay.Inventory
