import DeviceRelay.Descriptor

/-!
# Registries of descriptors

A provider knows descriptors by name. Built from a list, it keeps the first descriptor of each name. A
registry asks its providers in order, and the first that knows a name answers, so the whole is the
first match in the providers' lists put together.
-/

namespace DeviceRelay

namespace Provider

/-- The descriptors whose name is neither among `seen` nor that of an earlier one. -/
def keepFirst (seen : List LooseText) : List Descriptor → List Descriptor
  | [] => []
  | d :: rest =>
    if seen.contains d.name then keepFirst seen rest else d :: keepFirst (d.name :: seen) rest

/-- The names of the descriptors that `keepFirst` leaves out. -/
def repeatedNames (seen : List LooseText) : List Descriptor → List LooseText
  | [] => []
  | d :: rest =>
    if seen.contains d.name then d.name :: repeatedNames seen rest
    else repeatedNames (d.name :: seen) rest

theorem name_notMem_of_mem_keepFirst {seen : List LooseText} {ds : List Descriptor} {d : Descriptor}
    (h : d ∈ keepFirst seen ds) : d.name ∉ seen := by
  induction ds generalizing seen with
  | nil => simp [keepFirst] at h
  | cons e rest ih =>
    simp only [keepFirst] at h
    split at h
    · exact ih h
    · next hn =>
      rcases List.mem_cons.mp h with rfl | h
      · simpa using hn
      · exact fun hm => ih h (List.mem_cons_of_mem _ hm)

theorem nodup_keepFirst (seen : List LooseText) (ds : List Descriptor) :
    ((keepFirst seen ds).map Descriptor.name).Nodup := by
  induction ds generalizing seen with
  | nil => simp [keepFirst]
  | cons e rest ih =>
    simp only [keepFirst]
    split
    · exact ih seen
    · rw [List.map_cons, List.nodup_cons]
      refine ⟨fun hm => ?_, ih _⟩
      obtain ⟨d, hd, hde⟩ := List.mem_map.mp hm
      exact name_notMem_of_mem_keepFirst hd (by simp [hde])

end Provider

/-- Descriptors with distinct names. -/
structure Provider where
  descriptors : List Descriptor
  distinct : (descriptors.map Descriptor.name).Nodup

namespace Provider

/-- The first descriptor of each name. -/
def ofList (ds : List Descriptor) : Provider := ⟨keepFirst [] ds, nodup_keepFirst [] ds⟩

/-- The names that the provider knows. -/
def names (p : Provider) : List LooseText := p.descriptors.map Descriptor.name

/-- The descriptor of a name. -/
def get? (p : Provider) (name : String) : Option Descriptor :=
  p.descriptors.find? fun d => d.name = name

end Provider

/-- Providers in the order in which they are asked. -/
structure Registry where
  providers : List Provider

namespace Registry

/-- The descriptor of a name, from the first provider that knows it. -/
def lookup (r : Registry) (name : String) : Option Descriptor :=
  r.providers.findSome? fun p => p.get? name

/-- Whether some provider knows the name. -/
def has (r : Registry) (name : String) : Bool := (r.lookup name).isSome

end Registry

end DeviceRelay
