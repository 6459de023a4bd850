import DeviceRelay.Outcome
import Mathlib.Data.List.Forall2

/-!
# Trails

What a step adds to the trail of publications, and what holds of a row of activities.

* `Outcome.forall₂_inTurn_iff` — if it depends on the activity alone whether its outcome is as it should be, then it
  depends on all activities of a row whether all outcomes are.
-/

namespace DeviceRelay.Outcome

variable {α β : Type}

section Trail

variable (a : α) (entries : List LogEntry) (o : Outcome α) (f : α → β) (g : α → Outcome β)

@[simp] theorem result_pure : (pure a).result = a := rfl

@[simp] theorem result_logged : (logged entries a).result = a := rfl

@[simp] theorem result_map : (o.map f).result = f o.result := rfl

@[simp] theorem result_andThen : (o.andThen g).result = (g o.result).result := rfl

@[simp] theorem publications_pure : (pure a).publications = [] := rfl

@[simp] theorem publications_logged : (logged entries a).publications = [] := rfl

@[simp] theorem publications_map : (o.map f).publications = o.publications := rfl

@[simp] theorem publications_andThen :
    (o.andThen g).publications = o.publications ++ (g o.result).publications := rfl

@[simp] theorem publications_usingIdentifier : o.usingIdentifier.publications = o.publications := rfl

end Trail

/-- The outcomes of a row of activities are as they should be exactly if each activity is such that its outcome is,
whatever identifiers were used up before it. -/
theorem forall₂_inTurn_iff {activity : Nat → α → Outcome β} {r : α → Outcome β → Prop} {p : α → Prop}
    {as : List α} (h : ∀ a ∈ as, ∀ used, r a (activity used a) ↔ p a) (used : Nat) :
    List.Forall₂ r as (inTurn activity used as) ↔ ∀ a ∈ as, p a := by
  induction as generalizing used with
  | nil => exact iff_of_true .nil (List.forall_mem_nil _)
  | cons a rest ih =>
    obtain ⟨ha, hrest⟩ := List.forall_mem_cons.mp h
    rw [inTurn, List.forall_mem_cons, ← ha used, ← ih hrest (used + (activity used a).identifiers)]
    constructor
    · intro h
      cases h with
      | cons hfirst hmore => exact ⟨hfirst, hmore⟩
    · rintro ⟨hfirst, hmore⟩
      exact .cons hfirst hmore

end DeviceRelay.Outcome
