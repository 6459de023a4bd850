import DeviceRelay.Proofs.Descriptor.Entry
import DeviceRelay.RawMessage
import DeviceRelay.Record.Assignment

/-!
# What a finished record lets be assigned

A finished record takes any value under a name that is free for remarks, and a dictionary in the place of its table of
fields. Under every other name it takes none, and so under the names of its fields.

* `Record.assign_eq_ok_iff` — the names, and the values, that are taken.
* `Record.assign_eq_frozen_iff` — the names that could be those of fields.
* `Record.assign_field` — the fields of descriptors and of raw messages.
-/

namespace DeviceRelay

/-- The names of the fields of a raw message. -/
def RawMessage.keys : List String :=
  ["connector_name", "topic", "body", "metrics", "received_on", "sent_on", "metadata"]

namespace Record

/-- The names that a record needs for itself. -/
def ownNames : List String := ["__class__", "__dict__", "__weakref__", "__fields_set__"]

/-- The name is free for a remark. -/
structure IsRemark (name : String) : Prop where
  underscore : name.toList.head? = some '_'
  notShared : name ∉ sharedNames
  notOwn : name ∉ ownNames

variable {title name : String} {value : Value}

theorem assign_of_isRemark (h : IsRemark name) : assign title name value = .ok () := by
  obtain ⟨hclass, hdict, hweak, hset⟩ : name ≠ "__class__" ∧ name ≠ "__dict__" ∧ name ≠ "__weakref__" ∧
      name ≠ "__fields_set__" := by
    simpa [ownNames] using h.notOwn
  have hshared : ¬sharedNames.contains name = true := by simpa using h.notShared
  unfold assign
  rw [if_neg (not_not_intro h.underscore), if_neg hshared]
  split
  · exact absurd rfl hclass
  · exact absurd rfl hdict
  · exact absurd rfl hdict
  · exact absurd rfl hweak
  · exact absurd rfl hset
  · rfl

theorem assign_eq_ok_iff :
    assign title name value = .ok () ↔ IsRemark name ∨ name = "__dict__" ∧ ∃ entries, value = .dict entries := by
  constructor
  · intro h
    by_cases hname : name ∈ ownNames
    · -- of the names that a record needs for itself only the table of fields can be taken over
      simp only [ownNames, List.mem_cons, List.not_mem_nil, or_false] at hname
      rcases hname with rfl | rfl | rfl | rfl
      · cases h
      · cases value with
        | dict entries => exact .inr ⟨rfl, entries, rfl⟩
        | _ => cases h
      · cases h
      · cases h
    · unfold assign at h
      split at h
      · cases h
      · next hunderscore =>
        split at h
        · cases h
        · next hshared => exact .inl ⟨not_not.mp hunderscore, by simpa using hshared, hname⟩
  · rintro (h | ⟨rfl, entries, rfl⟩)
    · exact assign_of_isRemark h
    · rfl

/-- A name without an underscore in front is refused as one that is, or could be, a field's, and no other is. -/
theorem assign_eq_frozen_iff {field : String} :
    assign title name value = .error (.frozen field) ↔ field = name ∧ name.toList.head? ≠ some '_' := by
  unfold assign
  split
  · next h => simpa [h] using eq_comm
  · next h =>
    refine iff_of_false (fun heq => ?_) fun hfield => h hfield.2
    split at heq
    · cases heq
    · split at heq <;> cases heq

/-- No field of a descriptor or of a raw message is given a value. -/
theorem assign_field {key : String} (hkey : key ∈ Descriptor.keys ++ RawMessage.keys) :
    assign title key value = .error (.frozen key) := by
  have hplain : ∀ key ∈ Descriptor.keys ++ RawMessage.keys, key.toList.head? ≠ some '_' := by decide
  exact assign_eq_frozen_iff.mpr ⟨rfl, hplain key hkey⟩

end Record

end DeviceRelay
