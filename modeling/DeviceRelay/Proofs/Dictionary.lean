import DeviceRelay.Dictionary
import DeviceRelay.Json

/-!
# Entries with distinct names

Of several values for one name the last counts. Where no name occurs twice there is nothing to decide, and
entries become a dictionary as they are.

* `mem_of_mem_lastEntries` — every entry that counts is one of the given entries.
* `mem_of_firstEntry` — what is found under a name is there.
* `lastEntries_of_nodup`, `Dictionary.ofList_entries` — distinct names.
* `firstEntry?_filter`, `Dictionary.get?_filterNames` — what is found when some entries are left out.
* `Dictionary.get?_ofList` — what is found among entries of which the last counts.
-/

namespace DeviceRelay

open Json (last?)

variable {α β : Type}

theorem mem_of_mem_putEntry {name : String} {value : α} {entries : List (String × α)} {entry : String × α}
    (h : entry ∈ putEntry name value entries) : entry = (name, value) ∨ entry ∈ entries := by
  induction entries with
  | nil => exact .inl (List.mem_singleton.mp h)
  | cons first rest ih =>
    obtain ⟨key, old⟩ := first
    rw [putEntry] at h
    by_cases hkey : key = name
    · rw [if_pos hkey, hkey] at h
      rcases List.mem_cons.mp h with h | h
      · exact .inl h
      · exact .inr (List.mem_cons_of_mem _ h)
    · rw [if_neg hkey] at h
      rcases List.mem_cons.mp h with rfl | h
      · exact .inr List.mem_cons_self
      · exact (ih h).imp_right (List.mem_cons_of_mem _)

theorem putEntry_of_notMem {name : String} {value : α} {entries : List (String × α)}
    (h : name ∉ namesOf entries) : putEntry name value entries = entries ++ [(name, value)] := by
  induction entries with
  | nil => rfl
  | cons first rest ih =>
    obtain ⟨key, old⟩ := first
    have hkey : key ≠ name := fun hkey => h (hkey ▸ List.mem_cons_self)
    have hrest : name ∉ namesOf rest := fun hrest => h (List.mem_cons_of_mem _ hrest)
    rw [putEntry, if_neg hkey, ih hrest, List.cons_append]

/-- Entries that are added one by one come from those that were there and those that are added. -/
theorem mem_of_mem_foldl_putEntry {entries done : List (String × α)} {entry : String × α}
    (h : entry ∈ entries.foldl (fun done entry => putEntry entry.1 entry.2 done) done) :
    entry ∈ done ∨ entry ∈ entries := by
  induction entries generalizing done with
  | nil => exact .inl h
  | cons first rest ih =>
    rcases ih h with h | h
    · rcases mem_of_mem_putEntry h with rfl | h
      · exact .inr List.mem_cons_self
      · exact .inl h
    · exact .inr (List.mem_cons_of_mem _ h)

/-- Every entry that counts is one of the given entries. -/
theorem mem_of_mem_lastEntries {entries : List (String × α)} {entry : String × α}
    (h : entry ∈ lastEntries entries) : entry ∈ entries :=
  (mem_of_mem_foldl_putEntry h).resolve_left (List.not_mem_nil)

/-- Entries of names that are not there yet come behind those that are there. -/
theorem foldl_putEntry_of_nodup {entries done : List (String × α)}
    (h : (namesOf (done ++ entries)).Nodup) :
    entries.foldl (fun done entry => putEntry entry.1 entry.2 done) done = done ++ entries := by
  induction entries generalizing done with
  | nil => exact (List.append_nil done).symm
  | cons first rest ih =>
    have hfirst : first.1 ∉ namesOf done := by
      intro hmem
      rw [namesOf, List.map_append, List.map_cons] at h
      exact (List.nodup_append.mp h).2.2 _ hmem _ List.mem_cons_self rfl
    rw [List.append_cons] at h ⊢
    rw [List.foldl_cons, putEntry_of_notMem hfirst]
    exact ih h

/-- Of entries with distinct names each counts. -/
theorem lastEntries_of_nodup {entries : List (String × α)} (h : (namesOf entries).Nodup) :
    lastEntries entries = entries :=
  foldl_putEntry_of_nodup h

theorem mem_of_firstEntry {name : String} {value : α} {entries : List (String × α)}
    (h : firstEntry? name entries = some value) : (name, value) ∈ entries := by
  induction entries with
  | nil => cases h
  | cons first rest ih =>
    rw [ firstEntry?] at h
    split at h
    · next hname =>
      obtain rfl := Option.some.inj h
      exact hname ▸ List.mem_cons_self
    · exact List.mem_cons_of_mem _ (ih h)

theorem firstEntry?_of_notMem {name : String} {entries : List (String × α)} (h : name ∉ namesOf entries) :
    firstEntry? name entries = none := by
  cases hfound : firstEntry? name entries with
  | none => rfl
  | some value => exact absurd (List.mem_map_of_mem (mem_of_firstEntry hfound)) h

/-- Of entries with distinct names some are left out: a name keeps its value, or has none. -/
theorem firstEntry?_filter (p : String × α → Bool) {entries : List (String × α)} (h : (namesOf entries).Nodup)
    (name : String) :
    firstEntry? name (entries.filter p) = ( firstEntry? name entries).filter fun value => p (name, value) := by
  induction entries with
  | nil => rfl
  | cons first rest ih =>
    obtain ⟨key, value⟩ := first
    obtain ⟨hkey, hrest⟩ := List.nodup_cons.mp h
    have ih := ih hrest
    rw [List.filter_cons]
    by_cases hname : key = name
    · subst hname
      -- the name does not come again, so that nothing takes the place of a value that is left out
      rw [ firstEntry?_of_notMem hkey] at ih
      cases hp : p (key, value) <;> simp [ firstEntry?, hp, ih, Option.filter]
    · cases p (key, value) <;> simp [ firstEntry?, hname, ih]

@[simp]
theorem namesOf_map (f : α → β) (entries : List (String × α)) :
    namesOf (entries.map fun entry => (entry.1, f entry.2)) = namesOf entries := by
  simp [namesOf]

@[ext]
theorem Dictionary.ext {d d' : Dictionary α} (h : d.entries = d'.entries) : d = d' := by
  obtain ⟨entries, distinct⟩ := d
  cases h
  rfl

theorem Dictionary.get?_filterNames (d : Dictionary α) (p : String → Bool) (name : String) :
    (d.filterNames p).get? name = if p name then d.get? name else none := by
  rw [get?, get?, filterNames, firstEntry?_filter _ d.distinct]
  cases firstEntry? name d.entries <;> cases hp : p name <;> simp [Option.filter, hp]

@[simp]
theorem Dictionary.ofList_entries (d : Dictionary α) : ofList d.entries = d :=
  Dictionary.ext (lastEntries_of_nodup d.distinct)

/-! ### Entries of which the last counts -/

theorem firstEntry?_putEntry (name key : String) (value : α) (entries : List (String × α)) :
    firstEntry? name (putEntry key value entries) = if key = name then some value else firstEntry? name entries := by
  induction entries with
  | nil => rfl
  | cons entry rest ih =>
    obtain ⟨first, old⟩ := entry
    rw [putEntry]
    by_cases hfirst : first = key
    · subst hfirst
      rw [if_pos rfl, firstEntry?, firstEntry?]
      split <;> rfl
    · rw [if_neg hfirst, firstEntry?, firstEntry?, ih]
      -- the name is at most one of the two keys, so it does not matter which one is asked for first
      by_cases hname : key = name
      · subst hname
        simp [hfirst]
      · simp [hname]

/-- Of entries that are added one by one the last is found, and if there is none, what was there before. -/
theorem firstEntry?_foldl_putEntry (name : String) (entries done : List (String × α)) :
    firstEntry? name (entries.foldl (fun done entry => putEntry entry.1 entry.2 done) done) =
      (last? name entries).or ( firstEntry? name done) := by
  induction entries generalizing done with
  | nil => rfl
  | cons entry rest ih =>
    obtain ⟨key, value⟩ := entry
    rw [List.foldl_cons, ih, firstEntry?_putEntry, last?]
    cases last? name rest with
    | some found => rfl
    | none => by_cases hkey : key = name <;> simp [hkey]

theorem Dictionary.get?_ofList (entries : List (String × α)) (name : String) :
    (ofList entries).get? name = last? name entries := by
  show firstEntry? name (lastEntries entries) = _
  rw [lastEntries, firstEntry?_foldl_putEntry]
  exact Option.or_none

end DeviceRelay
