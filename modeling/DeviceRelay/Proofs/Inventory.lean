import DeviceRelay.Inventory.Reading
import DeviceRelay.Proofs.Fault

/-!
# Inventories that are let through

Whatever a list of software is read from, each of its entries keeps the rules of its sort afterwards; and if a list
is refused, its body cannot be decoded or one of these rules is broken.

* `lawful_of_readItems`, `lawful_of_readBundles`, `lawful_of_readContainers`, `lawful_of_readPackages` — what is
  let through.
* `failsOnly_readItems`, `failsOnly_readBundles`, `failsOnly_readContainers`, `failsOnly_readPackages` — why a list
  is refused.
-/

namespace DeviceRelay.Inventory

/-- What every item keeps to. -/
structure Item.Lawful (i : Item) : Prop where
  name_ne : Text.isBlankText i.name = false

/-- What every bundle keeps to. -/
structure Bundle.Lawful (b : Bundle) : Prop where
  name_ne : Text.isBlankText b.name = false
  id_nonneg : 0 ≤ b.id

/-- What every container keeps to. -/
structure Container.Lawful (c : Container) : Prop where
  name_ne : Text.isBlankText c.name = false
  state_mem : ∀ state ∈ c.state, state ∈ containerStates

/-- What every package keeps to. -/
structure Package.Lawful (p : Package) : Prop where
  name_ne : Text.isBlankText p.name = false

/-! ### Rules -/

/-- The field that a list of items stands for in faults. -/
def itemFields : List String := ["inventory"]

/-- The fields of a list of bundles in faults. -/
def bundleFields : List String := ["bundles", "bundles.id"]

/-- The fields of a list of containers in faults. -/
def containerFields : List String := ["containers", "containers.state"]

/-- The field that a list of packages stands for in faults. -/
def packageFields : List String := ["systemPackages"]

theorem checkName_eq_ok_iff {field name : String} :
    checkName field name = .ok () ↔ Text.isBlankText name = false := by
  rw [checkName, ite_error_eq_ok]
  simp

theorem failsOnly_checkName {fields : List String} {field : String} (h : field ∈ fields) (name : String) :
    FailsOnly (Fault.BreaksRule fields) (checkName field name) :=
  failsOnly_ite (Fault.breaksRule h) failsOnly_ok

theorem stateOf_mem {state : Option String} {result : Option String} (h : stateOf state = .ok result) :
    ∀ s ∈ result, s ∈ containerStates := by
  cases state with
  | none =>
    obtain rfl := Except.ok.inj h
    simp
  | some name =>
    unfold stateOf at h
    dsimp only at h
    split at h
    · next hmem =>
      obtain rfl := Except.ok.inj h
      rintro s ⟨⟩
      exact List.contains_iff_mem.mp hmem
    · cases h

theorem failsOnly_stateOf (state : Option String) :
    FailsOnly (Fault.BreaksRule containerFields) (stateOf state) := by
  cases state with
  | none => exact failsOnly_ok
  | some name =>
    unfold stateOf
    dsimp only
    split
    · exact failsOnly_ok
    · exact failsOnly_error.mpr (Fault.breaksRule (by decide))

/-! ### Entries -/

theorem Entry.lawful_of_toItem {e : Entry} {i : Item} (h : e.toItem = .ok i) : i.Lawful := by
  obtain ⟨hname, hi⟩ := check_bind_eq_ok.mp h
  obtain rfl := Except.ok.inj hi
  exact ⟨checkName_eq_ok_iff.mp hname⟩

theorem Entry.lawful_of_toPackage {e : Entry} {p : Package} (h : e.toPackage = .ok p) : p.Lawful := by
  obtain ⟨hname, hp⟩ := check_bind_eq_ok.mp h
  obtain rfl := Except.ok.inj hp
  exact ⟨checkName_eq_ok_iff.mp hname⟩

theorem BundleEntry.lawful_of_translate {e : BundleEntry} {b : Bundle} (h : e.translate = .ok b) :
    b.Lawful := by
  obtain ⟨hname, hb⟩ := check_bind_eq_ok.mp h
  obtain ⟨hid, hb⟩ := ite_error_eq_ok.mp hb
  obtain rfl := Except.ok.inj hb
  exact ⟨checkName_eq_ok_iff.mp hname, Int.not_lt.mp hid⟩

theorem ContainerEntry.lawful_of_translate {e : ContainerEntry} {c : Container} (h : e.translate = .ok c) :
    c.Lawful := by
  obtain ⟨hname, hc⟩ := check_bind_eq_ok.mp h
  obtain ⟨state, hstate, hc⟩ := bind_eq_ok.mp hc
  obtain rfl := Except.ok.inj hc
  exact ⟨checkName_eq_ok_iff.mp hname, stateOf_mem hstate⟩

theorem Entry.failsOnly_toItem (e : Entry) : FailsOnly (Fault.BreaksRule itemFields) e.toItem :=
  failsOnly_bind.mpr ⟨failsOnly_checkName (by decide) e.name, fun _ _ => failsOnly_ok⟩

theorem Entry.failsOnly_toPackage (e : Entry) : FailsOnly (Fault.BreaksRule packageFields) e.toPackage :=
  failsOnly_bind.mpr ⟨failsOnly_checkName (by decide) e.name, fun _ _ => failsOnly_ok⟩

theorem BundleEntry.failsOnly_translate (e : BundleEntry) :
    FailsOnly (Fault.BreaksRule bundleFields) e.translate := by
  refine failsOnly_bind.mpr ⟨failsOnly_checkName (by decide) e.name, fun _ _ => ?_⟩
  exact failsOnly_ite (Fault.breaksRule (by decide)) failsOnly_ok

theorem ContainerEntry.failsOnly_translate (e : ContainerEntry) :
    FailsOnly (Fault.BreaksRule containerFields) e.translate := by
  refine failsOnly_bind.mpr ⟨failsOnly_checkName (by decide) e.name, fun _ _ => ?_⟩
  exact failsOnly_bind.mpr ⟨failsOnly_stateOf e.state, fun _ _ => failsOnly_ok⟩

/-! ### Bodies -/

section Lawful

variable {body : Bytes} {charset : LooseText}

theorem lawful_of_readItems {items : List Item} (h : readItems body charset = .ok items) :
    ∀ i ∈ items, i.Lawful := by
  obtain ⟨⟨rows, _⟩, -, hrows⟩ := bind_eq_ok.mp h
  exact forall_mem_of_mapM hrows fun _ _ => Entry.lawful_of_toItem

theorem lawful_of_readBundles {bundles : List Bundle} (h : readBundles body charset = .ok bundles) :
    ∀ b ∈ bundles, b.Lawful := by
  obtain ⟨⟨rows, _⟩, -, hrows⟩ := bind_eq_ok.mp h
  exact forall_mem_of_mapM hrows fun _ _ => BundleEntry.lawful_of_translate

theorem lawful_of_readContainers {containers : List Container}
    (h : readContainers body charset = .ok containers) : ∀ c ∈ containers, c.Lawful := by
  obtain ⟨⟨rows, _⟩, -, hrows⟩ := bind_eq_ok.mp h
  exact forall_mem_of_mapM hrows fun _ _ => ContainerEntry.lawful_of_translate

theorem lawful_of_readPackages {packages : List Package} (h : readPackages body charset = .ok packages) :
    ∀ p ∈ packages, p.Lawful := by
  obtain ⟨⟨rows, _⟩, -, hrows⟩ := bind_eq_ok.mp h
  exact forall_mem_of_mapM hrows fun _ _ => Entry.lawful_of_toPackage

end Lawful

section Refusals

variable {charset : LooseText} (hcharset : Charset.IsKnown charset) (body : Bytes)

include hcharset

theorem failsOnly_readItems :
    FailsOnly (Fault.RefusesContent (some body) itemFields) (readItems body charset) :=
  (Body.failsOnly_read_bind_iff hcharset itemsShape).mpr fun _ _ =>
    failsOnly_mapM fun row => (Entry.ofItem row).failsOnly_toItem.refusesContent

theorem failsOnly_readBundles :
    FailsOnly (Fault.RefusesContent (some body) bundleFields) (readBundles body charset) :=
  (Body.failsOnly_read_bind_iff hcharset bundlesShape).mpr fun _ _ =>
    failsOnly_mapM fun row => (BundleEntry.ofItem row).failsOnly_translate.refusesContent

theorem failsOnly_readContainers :
    FailsOnly (Fault.RefusesContent (some body) containerFields) (readContainers body charset) :=
  (Body.failsOnly_read_bind_iff hcharset containersShape).mpr fun _ _ =>
    failsOnly_mapM fun row => (ContainerEntry.ofItem row).failsOnly_translate.refusesContent

theorem failsOnly_readPackages :
    FailsOnly (Fault.RefusesContent (some body) packageFields) (readPackages body charset) :=
  (Body.failsOnly_read_bind_iff hcharset packagesShape).mpr fun _ _ =>
    failsOnly_mapM fun row => (Entry.ofItem row).failsOnly_toPackage.refusesContent

end Refusals

end DeviceRelay.Inventory
