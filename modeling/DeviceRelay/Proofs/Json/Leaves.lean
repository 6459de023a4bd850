import DeviceRelay.Json.Writer
import DeviceRelay.Proofs.Json.Reading
import DeviceRelay.Proofs.Schema.Rereading
import DeviceRelay.Proofs.Text.Numeral

/-!
# Leaves and names of a JSON value

What can be written or sent depends on two things alone: the values without parts (`Json.Every`) and the names of
members (`Json.EveryName`), at any depth.

* `Json.induction` — what holds of a value whenever it holds of its parts, holds of all.
* `Json.isWritable_iff` — a value may be written out if each of its integers may.
-/

namespace DeviceRelay.Json

/-- Induction on a value: an array or an object has the property if all of its parts have it. -/
@[elab_as_elim]
theorem induction {motive : Json → Prop} (null : motive .null) (bool : ∀ b, motive (.bool b))
    (int : ∀ n, motive (.int n)) (float : ∀ x, motive (.float x)) (str : ∀ s, motive (.str s))
    (arr : ∀ items, (∀ v ∈ items, motive v) → motive (.arr items))
    (obj : ∀ members, (∀ member ∈ members, motive member.2) → motive (.obj members)) (v : Json) : motive v :=
  @Json.rec motive (fun items => ∀ v ∈ items, motive v) (fun members => ∀ member ∈ members, motive member.2)
    (fun member => motive member.2) null bool int float str arr obj
    (List.forall_mem_nil _) (fun _ _ hv hrest => List.forall_mem_cons.mpr ⟨hv, hrest⟩)
    (List.forall_mem_nil _) (fun _ _ hv hrest => List.forall_mem_cons.mpr ⟨hv, hrest⟩)
    (fun _ _ hv => hv) v

/-! ### Leaves -/

section Every

variable {p : Json → Prop}

theorem every_arr {items : List Json} : (arr items).Every p ↔ ∀ v ∈ items, v.Every p := by
  rw [Every, everyItem_iff]

theorem every_obj {members : List (String × Json)} :
    (obj members).Every p ↔ ∀ member ∈ members, member.2.Every p := by
  rw [Every, everyMember_iff]

/-- What holds of all values holds of every leaf. -/
theorem every_of_forall (h : ∀ v, p v) (v : Json) : v.Every p := by
  induction v using Json.induction with
  | arr items ih => exact every_arr.mpr ih
  | obj members ih => exact every_obj.mpr ih
  | _ => exact h _

theorem everyMember_append {front back : List (String × Json)} :
    EveryMember p (front ++ back) ↔ EveryMember p front ∧ EveryMember p back := by
  rw [everyMember_iff, everyMember_iff, everyMember_iff, List.forall_mem_append]

end Every

section Plain

variable {p : Json → Prop} (hp : Plain p)

include hp

theorem every_ofText? (s : Option String) : (ofText? s).Every p := by
  cases s with
  | none => exact hp.null
  | some s => exact hp.str s

theorem every_ofBool? (b : Option Bool) : (ofBool? b).Every p := by
  cases b with
  | none => exact hp.null
  | some b => exact hp.bool b

theorem every_ofInt?_iff (n : Option Int) : (ofInt? n).Every p ↔ ∀ k ∈ n, p (.int k) := by
  cases n with
  | none => simp [ofInt?, Every, hp.null]
  | some n => simp [ofInt?, Every]

end Plain

/-- A leaf that may be written out: an integer needs few enough digits. -/
def Writable : Json → Prop
  | .int n => Text.isWritable n = true
  | _ => True

theorem allWritable_eq_all (items : List Json) : allWritable items = items.all isWritable := by
  induction items with
  | nil => rfl
  | cons item rest ih => rw [allWritable, ih, List.all_cons]

theorem membersWritable_eq_all (members : List (String × Json)) :
    membersWritable members = members.all fun member => member.2.isWritable := by
  induction members with
  | nil => rfl
  | cons member rest ih => rw [membersWritable, ih, List.all_cons]

theorem plain_writable : Plain Writable :=
  ⟨trivial, fun _ => trivial, fun _ => trivial⟩

/-- A value may be written out if each of its integers may. -/
theorem isWritable_iff (v : Json) : v.isWritable = true ↔ v.Every Writable := by
  induction v using Json.induction with
  | arr items ih =>
    rw [isWritable, allWritable_eq_all, List.all_eq_true, every_arr]
    exact forall₂_congr ih
  | obj members ih =>
    rw [isWritable, membersWritable_eq_all, List.all_eq_true, every_obj]
    exact forall₂_congr ih
  | _ => simp [isWritable, Every, Writable]

/-- The digits in which an integer is written decide whether it may be. -/
theorem isWritable_int_iff {n : Int} : Text.isWritable n = true ↔ digitCount n ≤ Text.digitLimit := by
  have hlimit : 0 < Text.digitLimit := by decide
  rw [Text.isWritable, decide_eq_true_eq]
  generalize Text.digitLimit = limit at hlimit ⊢
  exact (Nat.length_toDigits_le_iff (by decide) hlimit).symm

/-! ### Names -/

mutual

/-- The property holds of the name of every member inside. -/
def EveryName (p : String → Prop) : Json → Prop
  | .arr items => EveryNameItem p items
  | .obj members => EveryNameMember p members
  | _ => True

/-- The property holds of every such name in the items. -/
def EveryNameItem (p : String → Prop) : List Json → Prop
  | [] => True
  | item :: rest => item.EveryName p ∧ EveryNameItem p rest

/-- The property holds of the name of every member and of every such name in their values. -/
def EveryNameMember (p : String → Prop) : List (String × Json) → Prop
  | [] => True
  | (name, value) :: rest => p name ∧ value.EveryName p ∧ EveryNameMember p rest

end

section EveryName

variable {p : String → Prop}

theorem everyNameItem_iff {items : List Json} : EveryNameItem p items ↔ ∀ v ∈ items, v.EveryName p := by
  induction items with
  | nil => simp [EveryNameItem]
  | cons item rest ih => simp [EveryNameItem, ih]

theorem everyNameMember_iff {members : List (String × Json)} :
    EveryNameMember p members ↔ ∀ member ∈ members, p member.1 ∧ member.2.EveryName p := by
  induction members with
  | nil => simp [EveryNameMember]
  | cons member rest ih => simp [EveryNameMember, ih, and_assoc]

theorem everyNameMember_append {front back : List (String × Json)} :
    EveryNameMember p (front ++ back) ↔ EveryNameMember p front ∧ EveryNameMember p back := by
  rw [everyNameMember_iff, everyNameMember_iff, everyNameMember_iff, List.forall_mem_append]

theorem everyName_arr {items : List Json} : (arr items).EveryName p ↔ ∀ v ∈ items, v.EveryName p := by
  rw [EveryName, everyNameItem_iff]

theorem everyName_obj {members : List (String × Json)} :
    (obj members).EveryName p ↔ ∀ member ∈ members, p member.1 ∧ member.2.EveryName p := by
  rw [EveryName, everyNameMember_iff]

/-- What holds of all texts holds of every name. -/
theorem everyName_of_forall (h : ∀ name, p name) (v : Json) : v.EveryName p := by
  induction v using Json.induction with
  | arr items ih => exact everyName_arr.mpr ih
  | obj members ih => exact everyName_obj.mpr fun member hmember => ⟨h member.1, ih member hmember⟩
  | _ => trivial

theorem everyName_ofText? (s : Option String) : (ofText? s).EveryName p := by
  cases s <;> trivial

theorem everyName_ofInt? (n : Option Int) : (ofInt? n).EveryName p := by
  cases n <;> trivial

theorem everyName_ofBool? (b : Option Bool) : (ofBool? b).EveryName p := by
  cases b <;> trivial

end EveryName

end DeviceRelay.Json
