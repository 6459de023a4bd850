import DeviceRelay.Descriptor.File
import DeviceRelay.Proofs.Checked

/-!
# Descriptor files that stop a registry

A descriptor file that is missing, unreadable or full of bad entries is meant to cost no more than its own
descriptors. On the way from its octets to the registry there are four places where it costs all the others too:

    octets ──UTF-8──▶ text ──YAML──▶ data ──key──▶ items ──▶ descriptors ──▶ registry
             │               │               │             │
             ▼ no text       ▼ the reader    ▼ no length   ▼ an item is passed over
                               breaks                        that cannot be written out

* `DescriptorFile.load_octets_eq_ok_iff`, `DescriptorFile.itemsOf_some_eq`, `DescriptorFile.validAmong_eq_ok_iff` — the
  steps on the way.
* `Registry.withFile_of_provider` — the registry, once there is a provider.
* `DescriptorFile.isServed_iff` — the four places are the only ones.
-/

namespace DeviceRelay

namespace DescriptorFile

/-! ### From octets to data -/

/-- Octets are loaded if they are a text and the reader of the text does not break. A text that it refuses in its own
way counts as no data, and void data as an empty mapping. -/
theorem load_octets_eq_ok_iff {content : Bytes} {data : Option Yaml.Data} :
    (octets content).load = .ok data ↔
      ∃ text, Charset.Utf8.decode content = .ok text ∧
        (Yaml.read text = .error .unreadable ∧ none = data ∨
          ∃ d, Yaml.read text = .ok d ∧ some (if d.isVoid then .dict [] else d) = data) := by
  rw [load]
  cases Charset.Utf8.decode content with
  | error f => simp
  | ok text =>
    cases hread : Yaml.read text with
    | error fault => cases fault <;> simp [hread]
    | ok d => simp [hread]

/-! ### From data to items -/

/-- What stands under the key of the descriptors, unless it is void. -/
def listed? : Yaml.Data → Option Yaml.Data
  | .dict entries => Option.filter (fun d => !d.isVoid) <| entry? descriptorsKey entries
  | _ => none

/-- In void data nothing stands under the key, as in the empty mapping that it counts as. -/
theorem listed?_settled (d : Yaml.Data) : listed? (if d.isVoid then .dict [] else d) = listed? d := by
  split
  · next hvoid =>
    cases d with
    | dict entries =>
      obtain rfl := List.isEmpty_iff.mp hvoid
      rfl
    | _ => rfl
  · rfl

/-- The items of data are what is listed in it, which has to have a length. -/
theorem itemsOf_some_eq (d : Yaml.Data) :
    itemsOf (some d) = match listed? d with
      | none => .ok (.list [])
      | some items =>
        if hasLength items then .ok items
        else .error (.unexpected "TypeError" s!"object of type '{kindName items}' has no len()") := by
  cases d with
  | dict entries =>
    rw [itemsOf, listed?]
    cases entry? descriptorsKey entries with
    | none => rfl
    | some items => cases hvoid : items.isVoid <;> simp [Option.filter, hvoid]
  | _ => rfl

/-! ### From items to descriptors -/

/-- The item is a descriptor, or it can be written out when it is passed over. -/
def Passable (charset : LooseText) (item : Yaml.Data) : Prop :=
  (descriptor? charset item).isSome = true ∨ isWritable item = true

/-- Among passable items the valid descriptors are found, in their order. -/
theorem validAmong_eq_ok_iff {charset : LooseText} {items : List Yaml.Data} {ds : List Descriptor} :
    validAmong charset items = .ok ds ↔
      (∀ item ∈ items, Passable charset item) ∧ items.filterMap (descriptor? charset) = ds := by
  induction items generalizing ds with
  | nil => simp [validAmong]
  | cons item rest ih =>
    rw [validAmong, List.forall_mem_cons, Passable, List.filterMap_cons]
    cases descriptor? charset item with
    | some d =>
      simp only [map_eq_ok, ih, Option.isSome_some, true_or, true_and]
      constructor
      · rintro ⟨more, ⟨hrest, rfl⟩, rfl⟩
        exact ⟨hrest, rfl⟩
      · rintro ⟨hrest, rfl⟩
        exact ⟨_, ⟨hrest, rfl⟩, rfl⟩
    | none => cases isWritable item <;> simp [ih]

/-- What is listed in the data, if anything, has a length and passable items only. -/
def Listable (charset : LooseText) (d : Yaml.Data) : Prop :=
  ∀ items, listed? d = some items → hasLength items = true ∧ ∀ item ∈ parts items, Passable charset item

/-- From such data, and from no other, the descriptors are taken. -/
theorem exists_descriptorsOf_iff {charset : LooseText} {d : Yaml.Data} :
    (∃ ds, (itemsOf (some d)).bind (fun items => validAmong charset (parts items)) = .ok ds) ↔
      Listable charset d := by
  rw [itemsOf_some_eq, Listable]
  cases listed? d with
  | none => simp [Except.bind, parts, validAmong]
  | some items =>
    cases hlength : hasLength items with
    | false => simp [Except.bind, hlength]
    | true => simp [Except.bind, hlength, validAmong_eq_ok_iff]

/-! ### From descriptors to the registry -/

/-- Files that stop nothing: a missing one, one whose text the reader refuses in its own way, and one with data from
which descriptors can be taken. -/
inductive Harmless (charset : LooseText) : DescriptorFile → Prop
  | missing : Harmless charset .missing
  | unreadable {content : Bytes} {text : List Char} (htext : Charset.Utf8.decode content = .ok text)
      (hread : Yaml.read text = .error .unreadable) : Harmless charset (.octets content)
  | data {content : Bytes} {text : List Char} {d : Yaml.Data} (htext : Charset.Utf8.decode content = .ok text)
      (hread : Yaml.read text = .ok d) (hlist : Listable charset d) : Harmless charset (.octets content)

theorem descriptors_of_load {charset : LooseText} {file : DescriptorFile} {data : Option Yaml.Data}
    (h : file.load = .ok data) :
    file.descriptors charset = (itemsOf data).bind fun items => validAmong charset (parts items) := by
  show (file.load.bind itemsOf).bind _ = _
  rw [h]
  rfl

theorem exists_descriptors_iff {charset : LooseText} {file : DescriptorFile} :
    (∃ ds, file.descriptors charset = .ok ds) ↔ Harmless charset file := by
  constructor
  · rintro ⟨ds, hds⟩
    obtain ⟨data, hload⟩ : ∃ data, file.load = .ok data := by
      obtain ⟨items, hitems, -⟩ := bind_eq_ok.mp hds
      obtain ⟨data, hload, -⟩ := bind_eq_ok.mp hitems
      exact ⟨data, hload⟩
    rw [descriptors_of_load hload] at hds
    cases file with
    | missing => exact .missing
    | octets content =>
      obtain ⟨text, htext, ⟨hread, rfl⟩ | ⟨d, hread, rfl⟩⟩ := load_octets_eq_ok_iff.mp hload
      · exact .unreadable htext hread
      · have hlist := exists_descriptorsOf_iff.mp ⟨ds, hds⟩
        rw [Listable, listed?_settled] at hlist
        exact .data htext hread hlist
  · intro h
    cases h with
    | missing => exact ⟨[], rfl⟩
    | unreadable htext hread =>
      rw [descriptors_of_load (load_octets_eq_ok_iff.mpr ⟨_, htext, .inl ⟨hread, rfl⟩⟩)]
      exact ⟨[], rfl⟩
    | data htext hread hlist =>
      rw [descriptors_of_load (load_octets_eq_ok_iff.mpr ⟨_, htext, .inr ⟨_, hread, rfl⟩⟩),
        exists_descriptorsOf_iff, Listable, listed?_settled]
      exact hlist

end DescriptorFile

/-- Behind the provider of a file stand the packaged descriptors. -/
theorem Registry.withFile_of_provider {charset : LooseText} {file : DescriptorFile} {p : Provider}
    (h : file.provider charset = .ok p) :
    ∃ r, withFile charset (some file) = .ok r ∧
      ∀ name, r.lookup name = (p.get? name).or (packaged.lookup name) := by
  refine ⟨⟨[p, .packaged]⟩, ?_, fun name => ?_⟩
  · show (file.provider charset).bind _ = _
    rw [h]
    rfl
  · simp only [lookup, packaged, List.findSome?_cons, List.findSome?_nil]
    cases p.get? name <;> rfl

namespace DescriptorFile

/-- The file is loaded, with data or without, a provider is built from it, and behind that provider a registry serves
the packaged descriptors. -/
def IsServed (charset : LooseText) (file : DescriptorFile) : Prop :=
  (∃ data, file.load = .ok data) ∧ ∃ p, file.provider charset = .ok p ∧
    ∃ r, Registry.withFile charset (some file) = .ok r ∧
      ∀ name, r.lookup name = (p.get? name).or (Registry.packaged.lookup name)

/-- The packaged descriptors are served beside a file exactly if the file is harmless: nothing stops them but octets
that are no text, a text that breaks the reader, something without a length under the key of the descriptors, and an
item that is passed over and cannot be written out. -/
theorem isServed_iff (charset : LooseText) (file : DescriptorFile) : file.IsServed charset ↔ Harmless charset file := by
  rw [← exists_descriptors_iff]
  constructor
  · rintro ⟨-, p, hp, -⟩
    obtain ⟨ds, hds, -⟩ := bind_eq_ok.mp hp
    exact ⟨ds, hds⟩
  · rintro ⟨ds, hds⟩
    have hp : file.provider charset = .ok (.ofList ds) := bind_eq_ok.mpr ⟨ds, hds, rfl⟩
    obtain ⟨items, hitems, -⟩ := bind_eq_ok.mp hds
    obtain ⟨data, hload, -⟩ := bind_eq_ok.mp hitems
    exact ⟨⟨data, hload⟩, _, hp, Registry.withFile_of_provider hp⟩

/-- A file with a number in the place of the descriptors. -/
def countedFile : DescriptorFile := .octets (Charset.Utf8.ofText "protocol_descriptors: 5")

theorem not_forall_isServed : ¬∀ charset file, IsServed charset file := by
  intro h
  obtain ⟨-, p, hp, -⟩ := h "utf-8" countedFile
  have hnone : (countedFile.provider "utf-8").toOption.isSome = false := by decide +kernel
  rw [hp] at hnone
  cases hnone

end DescriptorFile

end DeviceRelay
