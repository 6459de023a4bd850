import DeviceRelay.Proofs.Refusal

/-!
# The first of several faults

Steps are made one behind another, and each of them has a fault or none. Written in a row, the first fault decides
what becomes of the whole:

    steps           none   none   some e   some e'   none
                                  ▲
    x.bind …        fails with ───┘

* `fault?_bind`, `fault?_bind_andThen`, `fault?_mapM` — the row of steps that is put together from others.
* `firstFault_eq_some_iff` — all steps in front of the first fault have none.
-/

namespace DeviceRelay

variable {ε α β : Type}

/-- What a step fails with, if it fails. -/
def fault? : Except ε α → Option ε
  | .ok _ => none
  | .error e => some e

@[simp] theorem fault?_ok (a : α) : fault? (.ok a : Except ε α) = none := rfl

@[simp] theorem fault?_error (e : ε) : fault? (.error e : Except ε α) = some e := rfl

@[simp] theorem fault?_map (f : α → β) (x : Except ε α) : fault? (x.map f) = fault? x := by
  cases x <;> rfl

theorem fault?_eq_some_iff {x : Except ε α} {e : ε} : fault? x = some e ↔ x = .error e := by
  cases x <;> simp

theorem fault?_eq_none_iff {x : Except ε α} : fault? x = none ↔ ∃ a, x = .ok a := by
  cases x <;> simp

/-- The first fault in a row of steps. -/
def firstFault (steps : List (Option ε)) : Option ε := steps.findSome? id

theorem firstFault_singleton (step : Option ε) : firstFault [step] = step := by
  cases step <;> rfl

theorem firstFault_append (steps more : List (Option ε)) :
    firstFault (steps ++ more) = (firstFault steps).or (firstFault more) :=
  List.findSome?_append

theorem firstFault_eq_none_iff {steps : List (Option ε)} : firstFault steps = none ↔ ∀ step ∈ steps, step = none :=
  List.findSome?_eq_none_iff

/-- In front of the first fault there is none. -/
theorem firstFault_eq_some_iff {steps : List (Option ε)} {e : ε} :
    firstFault steps = some e ↔
      ∃ front back, steps = front ++ some e :: back ∧ ∀ step ∈ front, step = none := by
  refine List.findSome?_eq_some_iff.trans ?_
  constructor
  · rintro ⟨front, step, back, hsteps, hstep, hfront⟩
    obtain rfl : step = some e := hstep
    exact ⟨front, back, hsteps, hfront⟩
  · rintro ⟨front, back, hsteps, hfront⟩
    exact ⟨front, some e, back, hsteps, rfl, hfront⟩

/-! ### Steps behind steps -/

/-- Behind the steps of the first part come those of the second, as far as the first has a result. -/
theorem fault?_bind_append {x : Except ε α} {f : α → Except ε β} {steps more : List (Option ε)}
    (hx : fault? x = firstFault steps) (hf : ∀ a, x = .ok a → fault? (f a) = firstFault more) :
    fault? (x.bind f) = firstFault (steps ++ more) := by
  rw [firstFault_append, ← hx]
  cases x with
  | error e => rfl
  | ok a => exact hf a rfl

theorem fault?_bind {x : Except ε α} {f : α → Except ε β} {more : List (Option ε)}
    (hf : ∀ a, x = .ok a → fault? (f a) = firstFault more) : fault? (x.bind f) = firstFault (fault? x :: more) :=
  fault?_bind_append (firstFault_singleton _).symm hf

/-- A step, and behind it those that its result leads to. -/
def andThen (x : Except ε α) (steps : α → List (Option ε)) : List (Option ε) :=
  fault? x :: match x with
    | .ok a => steps a
    | .error _ => []

theorem fault?_bind_andThen {x : Except ε α} {f : α → Except ε β} {steps : α → List (Option ε)}
    (hf : ∀ a, fault? (f a) = firstFault (steps a)) : fault? (x.bind f) = firstFault (andThen x steps) := by
  cases x with
  | error e => rfl
  | ok a => exact hf a

/-- The steps of a list are those of its items, one item after another. -/
theorem fault?_mapM {f : α → Except ε β} {steps : α → List (Option ε)}
    (hf : ∀ a, fault? (f a) = firstFault (steps a)) (as : List α) :
    fault? (as.mapM f) = firstFault (as.flatMap steps) := by
  induction as with
  | nil => rfl
  | cons a rest ih =>
    rw [mapM_cons_eq, List.flatMap_cons]
    refine fault?_bind_append (hf a) fun b _ => ?_
    rw [fault?_map]
    exact ih

end DeviceRelay
