import DeviceRelay.Proofs.Checked

/-!
# The problems of a record

The steps that read the parts of a record gather their problems. `Checked.problems` is the list of them, empty
behind a result, and each way to put steps together puts their lists together:

    problems (both x y)      = problems x ++ problems y
    problems (under step x)  = the problems of x, each one step further down
    problems (items f n as)  = the problems of the items, one item after another

* `Checked.Stated` — a refusal has a problem to state. Every way to put steps together keeps this, and
  `problems_eq_nil_iff` says what it is good for: with no problems there is a result.
* `Checked.mem_problems_items_iff` — every problem of a list is one of an item, under the item's position.
-/

namespace DeviceRelay.Checked

variable {α β : Type}

/-- The problems that stand in the way of a result. -/
def problems : Checked α → List Problem
  | .ok _ => []
  | .error found => found

@[simp] theorem problems_ok (a : α) : problems (.ok a) = [] := rfl

@[simp] theorem problems_error (found : List Problem) : problems (.error found : Checked α) = found := rfl

@[simp] theorem problems_refuse (kind : ProblemKind) :
    problems (refuse kind : Checked α) = [⟨kind, []⟩] := rfl

@[simp] theorem problems_map (f : α → β) (x : Checked α) : problems (x.map f) = problems x := by
  cases x <;> rfl

@[simp] theorem problems_under (step : PathStep) (x : Checked α) :
    problems (under step x) = (problems x).map (Problem.under step) := by
  cases x <;> rfl

@[simp] theorem problems_both (x : Checked α) (y : Checked β) :
    problems (both x y) = problems x ++ problems y := by
  cases x <;> cases y <;> simp [both]

theorem problems_items_cons (f : α → Checked β) (n : Nat) (item : α) (rest : List α) :
    problems (items f n (item :: rest)) =
      (problems (f item)).map (Problem.under (.index n)) ++ problems (items f (n + 1) rest) := by
  simp [items]

/-- Every problem of a list is one of an item, under the position that the item is counted as. -/
theorem mem_problems_items_iff {f : α → Checked β} {n : Nat} {values : List α} {p : Problem} :
    p ∈ problems (items f n values) ↔
      ∃ i a q, values[i]? = some a ∧ q ∈ problems (f a) ∧ q.under (.index (n + i)) = p := by
  induction values generalizing n with
  | nil => simp [items]
  | cons item rest ih =>
    rw [problems_items_cons, List.mem_append, List.mem_map, ih]
    constructor
    · rintro (⟨q, hq, rfl⟩ | ⟨i, a, q, ha, hq, rfl⟩)
      · exact ⟨0, item, q, rfl, hq, rfl⟩
      · refine ⟨i + 1, a, q, ha, hq, ?_⟩
        rw [Nat.add_right_comm, Nat.add_assoc]
    · rintro ⟨i, a, q, ha, hq, rfl⟩
      cases i with
      | zero =>
        obtain rfl := Option.some.inj ha
        exact Or.inl ⟨q, hq, rfl⟩
      | succ i =>
        refine Or.inr ⟨i, a, q, ha, hq, ?_⟩
        rw [Nat.add_right_comm, Nat.add_assoc]

theorem problems_items_eq_nil_iff {f : α → Checked β} {n : Nat} {values : List α} :
    problems (items f n values) = [] ↔ ∀ a ∈ values, problems (f a) = [] := by
  induction values generalizing n with
  | nil => simp [items]
  | cons item rest ih => simp [problems_items_cons, ih]

/-! ### Refusals that say why -/

/-- A refusal has a problem to state. -/
def Stated (x : Checked α) : Prop := x ≠ .error []

theorem problems_eq_nil_iff {x : Checked α} (h : Stated x) : problems x = [] ↔ ∃ a, x = .ok a := by
  cases x with
  | ok a => simp
  | error found =>
    have hne : found ≠ [] := by
      rintro rfl
      exact h rfl
    simp [hne]

theorem stated_ok (a : α) : Stated (.ok a) := by
  simp [Stated]

theorem stated_refuse (kind : ProblemKind) : Stated (refuse kind : Checked α) := by
  simp [Stated, refuse]

theorem Stated.map {x : Checked α} (h : Stated x) (f : α → β) : Stated (x.map f) := by
  cases x with
  | ok a => exact stated_ok (f a)
  | error found =>
    intro hnil
    exact h (congrArg Except.error (Except.error.inj hnil))

theorem Stated.under {x : Checked α} (h : Stated x) (step : PathStep) : Stated (under step x) := by
  cases x with
  | ok a => exact stated_ok a
  | error found =>
    intro hnil
    have hfound : found = [] := List.map_eq_nil_iff.mp (Except.error.inj hnil)
    exact h (congrArg Except.error hfound)

theorem Stated.both {x : Checked α} {y : Checked β} (hx : Stated x) (hy : Stated y) : Stated (both x y) := by
  cases x with
  | ok a =>
    cases y with
    | ok b => exact stated_ok (a, b)
    | error found =>
      intro hnil
      exact hy (congrArg Except.error (Except.error.inj hnil))
  | error found =>
    have hne : found ≠ [] := by
      rintro rfl
      exact hx rfl
    cases y with
    | ok b => simp [Stated, Checked.both, hne]
    | error more => simp [Stated, Checked.both, hne]

theorem stated_items {f : α → Checked β} {values : List α} (h : ∀ a ∈ values, Stated (f a)) (n : Nat) :
    Stated (items f n values) := by
  induction values generalizing n with
  | nil => exact stated_ok []
  | cons item rest ih =>
    obtain ⟨hitem, hrest⟩ := List.forall_mem_cons.mp h
    rw [items]
    exact ((hitem.under (.index n)).both (ih hrest (n + 1))).map _

end DeviceRelay.Checked
