import DeviceRelay.Proofs.Descriptor.Entry
import DeviceRelay.Proofs.Descriptor.File
import DeviceRelay.Proofs.Registry
import Mathlib.Logic.Relation

/-!
# Broken entries among valid ones

A list of entries is read in order, and an entry that is no descriptor is passed over. What a provider of the list
answers is decided by the entries that are left:

    entries      ✗ · north · ✗ · east · north'
                       │           │
    descriptors      north  ·    east  · north'  ──find?──▶ the first of a name

* `DescriptorFile.reads_iff` — what is left, as a relation between the two lists.
* `DescriptorFile.Insertion.reads_iff`, `DescriptorFile.reads_iff_of_eqvGen` — broken entries are put in and taken out.
* `DescriptorFile.get?_ofList_eq_some_iff` — the first valid entry of a name.
* `DescriptorFile.providerOf_eq_ok_iff` — there is a provider unless a broken entry cannot be written out.
-/

namespace DeviceRelay.DescriptorFile

/-! ### What is left of the entries -/

/-- The entries read in order, without the broken ones. -/
inductive Reads (charset : LooseText) : List Yaml.Data → List Descriptor → Prop
  | nil : Reads charset [] []
  | valid {item : Yaml.Data} {d : Descriptor} {items : List Yaml.Data} {ds : List Descriptor}
    (h : Describes charset item d) (rest : Reads charset items ds) : Reads charset (item :: items) (d :: ds)
  | broken {item : Yaml.Data} {items : List Yaml.Data} {ds : List Descriptor} (h : Broken item)
    (rest : Reads charset items ds) : Reads charset (item :: items) ds

section Reads

variable {charset : LooseText} {items items' : List Yaml.Data} {ds : List Descriptor}

theorem reads_iff : Reads charset items ds ↔ items.filterMap (descriptor? charset) = ds := by
  constructor
  · intro h
    induction h with
    | nil => rfl
    | valid h _ ih => rw [List.filterMap_cons_some (descriptor?_eq_some_iff.mpr h), ih]
    | broken h _ ih => rw [List.filterMap_cons_none (descriptor?_eq_none_iff.mpr h), ih]
  · rintro rfl
    induction items with
    | nil => exact .nil
    | cons item rest ih =>
      cases hd : descriptor? charset item with
      | some d =>
        rw [List.filterMap_cons_some hd]
        exact .valid (descriptor?_eq_some_iff.mp hd) ih
      | none =>
        rw [List.filterMap_cons_none hd]
        exact .broken (descriptor?_eq_none_iff.mp hd) ih

/-- A broken entry is put in somewhere. -/
inductive Insertion : List Yaml.Data → List Yaml.Data → Prop
  | mk {before after : List Yaml.Data} {item : Yaml.Data} (h : Broken item) :
    Insertion (before ++ after) (before ++ item :: after)

theorem Insertion.reads_iff (h : Insertion items items') : Reads charset items ds ↔ Reads charset items' ds := by
  cases h with
  | mk h =>
    rw [DescriptorFile.reads_iff, DescriptorFile.reads_iff, List.filterMap_append, List.filterMap_append,
      List.filterMap_cons_none (descriptor?_eq_none_iff.mpr h)]

/-- Any number of broken entries are put in and taken out. -/
theorem reads_iff_of_eqvGen (h : Relation.EqvGen Insertion items items') :
    Reads charset items ds ↔ Reads charset items' ds := by
  induction h with
  | rel items items' h => exact h.reads_iff
  | refl items => rfl
  | symm items items' _ ih => exact ih.symm
  | trans items items' items'' _ _ ih ih' => exact ih.trans ih'

/-! ### The first valid entry of a name -/

/-- An entry describes it under its name, and no entry before describes another one under that name. -/
def IsFirst (charset : LooseText) (items : List Yaml.Data) (name : String) (d : Descriptor) : Prop :=
  ∃ before item after, items = before ++ item :: after ∧ Describes charset item d ∧ d.name = .text name ∧
    ∀ earlier ∈ before, ∀ d', Describes charset earlier d' → d'.name ≠ .text name

theorem get?_ofList_eq_some_iff (h : Reads charset items ds) {name : String} {d : Descriptor} :
    (Provider.ofList ds).get? name = some d ↔ IsFirst charset items name d := by
  -- the descriptors are searched for the name, so the entries are searched for one that describes something under it
  have hsearch : (Provider.ofList ds).get? name =
      (items.find? fun item => (descriptor? charset item).any (·.name = .text name)).bind (descriptor? charset) := by
    rw [Provider.get?_ofList, ← reads_iff.mp h, List.find?_filterMap]
  have hany (item : Yaml.Data) : (descriptor? charset item).any (·.name = .text name) = true ↔
      ∃ d, Describes charset item d ∧ d.name = .text name := by
    simp [Option.any_eq_true, descriptor?_eq_some_iff]
  have hnot (item : Yaml.Data) : (!(descriptor? charset item).any (·.name = .text name)) = true ↔
      ∀ d, Describes charset item d → d.name ≠ .text name := by
    rw [Bool.not_eq_true', ← Bool.not_eq_true, hany]
    simp
  rw [hsearch, Option.bind_eq_some_iff]
  simp only [List.find?_eq_some_iff_append, hany, hnot, descriptor?_eq_some_iff]
  constructor
  · rintro ⟨item, ⟨⟨d', hd', hname⟩, before, after, rfl, hbefore⟩, hd⟩
    obtain rfl := hd'.unique hd
    exact ⟨before, item, after, rfl, hd, hname, hbefore⟩
  · rintro ⟨before, item, after, rfl, hd, hname, hbefore⟩
    exact ⟨item, ⟨⟨d, hd, hname⟩, before, after, rfl, hbefore⟩, hd⟩

end Reads

/-! ### The provider of entries -/

/-- The provider of a list of entries. -/
def providerOf (charset : LooseText) (items : List Yaml.Data) : Except Failure Provider :=
  (validAmong charset items).map .ofList

/-- A file that lists the entries has their provider. -/
theorem provider_of_items {charset : LooseText} {file : DescriptorFile} {items : List Yaml.Data}
    (h : file.items = .ok (.list items)) : file.provider charset = providerOf charset items := by
  show (file.items.bind fun found => validAmong charset (parts found)).bind _ = _
  rw [h, providerOf]
  show (validAmong charset items).bind _ = _
  cases validAmong charset items <;> rfl

/-- Every broken entry can be written out. -/
def AllWritable (items : List Yaml.Data) : Prop := ∀ item ∈ items, Broken item → isWritable item = true

theorem passable_iff {charset : LooseText} {item : Yaml.Data} :
    Passable charset item ↔ (Broken item → isWritable item = true) := by
  rw [Passable, ← @descriptor?_eq_none_iff charset]
  cases descriptor? charset item <;> simp

/-- There is a provider unless a broken entry cannot be written out, and it is the one of what is left. -/
theorem providerOf_eq_ok_iff {charset : LooseText} {items : List Yaml.Data} {p : Provider} :
    providerOf charset items = .ok p ↔ AllWritable items ∧ ∃ ds, Reads charset items ds ∧ .ofList ds = p := by
  simp only [providerOf, map_eq_ok, validAmong_eq_ok_iff, passable_iff, reads_iff, AllWritable]
  constructor
  · rintro ⟨ds, ⟨hwritable, hds⟩, rfl⟩
    exact ⟨hwritable, ds, hds, rfl⟩
  · rintro ⟨hwritable, ds, hds, rfl⟩
    exact ⟨ds, ⟨hwritable, hds⟩, rfl⟩

/-- Otherwise there is the fault of the first one that cannot be. -/
theorem validAmong_of_not_allWritable {charset : LooseText} {items : List Yaml.Data} (h : ¬AllWritable items) :
    validAmong charset items = .error (.unexpected "ValueError" Text.unwritableMessage) := by
  induction items with
  | nil => exact absurd (List.forall_mem_nil _) h
  | cons item rest ih =>
    rw [AllWritable, List.forall_mem_cons, not_and] at h
    rw [validAmong]
    cases hd : descriptor? charset item with
    | some d =>
      have hbroken : ¬Broken item := fun hbroken => hbroken.not_describes (descriptor?_eq_some_iff.mp hd)
      have hrest := h fun hbroken' => absurd hbroken' hbroken
      dsimp only
      rw [ih hrest]
      rfl
    | none =>
      cases hwritable : isWritable item with
      | true =>
        have hrest := h fun _ => hwritable
        exact ih hrest
      | false => rfl

theorem providerOf_of_not_allWritable {charset : LooseText} {items : List Yaml.Data} (h : ¬AllWritable items) :
    providerOf charset items = .error (.unexpected "ValueError" Text.unwritableMessage) := by
  rw [providerOf, validAmong_of_not_allWritable h]
  rfl

/-! ### Isolation -/

/-- The broken entries leave no trace in the provider `p` of the entries. -/
structure IsIsolated (charset : LooseText) (items : List Yaml.Data) (p : Provider) : Prop where
  /-- It answers as a provider of the valid entries in their order. -/
  valid : ∃ ds, Reads charset items ds ∧ ∀ name, p.get? name = (Provider.ofList ds).get? name
  /-- A name is answered with the first valid entry of that name, whatever broken ones stand before it. -/
  first : ∀ name d, p.get? name = some d ↔ IsFirst charset items name d
  /-- Other broken entries, at other positions, or none, make no difference. -/
  inserted : ∀ items', Relation.EqvGen Insertion items items' → AllWritable items' →
    ∃ p', providerOf charset items' = .ok p' ∧ ∀ name, p'.get? name = p.get? name
  /-- A file that lists the entries has this provider, and a registry asks it before the packaged descriptors. -/
  layered : ∀ file : DescriptorFile, file.items = .ok (.list items) → file.provider charset = .ok p ∧
    ∃ r, Registry.withFile charset (some file) = .ok r ∧
      ∀ name, r.lookup name = (p.get? name).or (Registry.packaged.lookup name)

/-- Broken entries are isolated exactly if all of them can be written out. If one cannot be, there is no provider but
the fault of its number. -/
theorem exists_isIsolated_iff (charset : LooseText) (items : List Yaml.Data) :
    ((∃ p, providerOf charset items = .ok p ∧ IsIsolated charset items p) ↔ AllWritable items) ∧
      (¬AllWritable items →
        providerOf charset items = .error (.unexpected "ValueError" Text.unwritableMessage)) := by
  refine ⟨⟨?_, fun hwritable => ?_⟩, providerOf_of_not_allWritable⟩
  · rintro ⟨p, hp, -⟩
    exact (providerOf_eq_ok_iff.mp hp).1
  · have hreads : Reads charset items (items.filterMap (descriptor? charset)) := reads_iff.mpr rfl
    have hp := providerOf_eq_ok_iff.mpr ⟨hwritable, _, hreads, rfl⟩
    refine ⟨_, hp, ⟨_, hreads, fun _ => rfl⟩, fun name d => get?_ofList_eq_some_iff hreads, ?_, ?_⟩
    · intro items' hedits hwritable'
      have hreads' := (reads_iff_of_eqvGen hedits).mp hreads
      exact ⟨_, providerOf_eq_ok_iff.mpr ⟨hwritable', _, hreads', rfl⟩, fun _ => rfl⟩
    · intro file hitems
      have hprovider := (provider_of_items hitems).trans hp
      exact ⟨hprovider, Registry.withFile_of_provider hprovider⟩

/-- A broken entry of a name stands before a valid one and another valid one. -/
example : (providerOf "utf-8" [record [("name", .text "north"), ("topic_separator", .text "")], .null,
    record [("name", .text "north")], record [("name", .text "north"), ("charset", .text "ascii")]]).toOption.bind
      (·.get? "north") = some (.ofName "utf-8" "north") := by
  decide +kernel

/-- A whole number of more than 4300 digits in front of a valid entry. -/
def crowdedItems : List Yaml.Data := [.int (Nat.pow 16 3580), record [("name", .text "good")]]

theorem not_forall_isIsolated :
    ¬∀ charset items, ∃ p, providerOf charset items = .ok p ∧ IsIsolated charset items p := by
  intro h
  obtain ⟨p, hp, -⟩ := h "utf-8" crowdedItems
  have hwritable := (providerOf_eq_ok_iff.mp hp).1 _ List.mem_cons_self (.notMapping fun _ h => Yaml.Data.noConfusion h)
  have hunwritable : isWritable (.int (Nat.pow 16 3580)) = false := by decide +kernel
  rw [hunwritable] at hwritable
  cases hwritable

end DeviceRelay.DescriptorFile
