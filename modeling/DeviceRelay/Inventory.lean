import DeviceRelay.Json

/-!
# Inventories

What a device tells about the software on it: items of any sort, bundles, containers and system
packages.
-/

namespace DeviceRelay.Inventory

/-- A piece of software of any sort. -/
structure Item where
  name : String
  version : Option String
  kind : Option String
  deriving Repr, DecidableEq

/-- A bundle. -/
structure Bundle where
  id : Int
  name : String
  version : Option String
  status : Option String
  signed : Option Bool
  deriving Repr, DecidableEq

/-- A container. -/
structure Container where
  name : String
  version : Option String
  kind : Option String
  state : Option String
  deriving Repr, DecidableEq

/-- A system package. -/
structure Package where
  name : String
  version : Option String
  kind : Option String
  deriving Repr, DecidableEq

/-! ### As records -/

/-- An item as a record. -/
def Item.dump (i : Item) : Json :=
  .obj [("name", .str i.name), ("version", .ofText? i.version), ("item_type", .ofText? i.kind)]

/-- A bundle as a record. -/
def Bundle.dump (b : Bundle) : Json :=
  .obj [("id", .int b.id), ("name", .str b.name), ("version", .ofText? b.version),
    ("status", .ofText? b.status), ("signed", .ofBool? b.signed)]

/-- A container as a record. -/
def Container.dump (c : Container) : Json :=
  .obj [("name", .str c.name), ("version", .ofText? c.version),
    ("container_type", .ofText? c.kind), ("state", .ofText? c.state)]

/-- A package as a record. -/
def Package.dump (p : Package) : Json :=
  .obj [("name", .str p.name), ("version", .ofText? p.version), ("package_type", .ofText? p.kind)]

end DeviceRelay.Inventory
