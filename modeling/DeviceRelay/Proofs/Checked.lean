import DeviceRelay.Problem

/-!
# What a success tells

A reading step is a row of steps in `Except`. Each lemma here opens one way to put steps together: what a
success of the whole tells of the parts, and the other way round.

* `map_eq_ok`, `bind_eq_ok`, `mapError_eq_ok` — one step behind another, and a refusal in other words.
* `ite_error_eq_ok`, `check_bind_eq_ok` — a rule, or a check of several, in front of a step.
* `mapM_eq_ok` — a step for each item of a list.
* `Checked.both_eq_ok`, `Checked.under_eq_ok`, `Checked.items_eq_ok` — the steps of a record. They gather
  their problems, but a success has none.
* `Checked.both_map`, `Checked.items_map` — what is made of the results is made of the parts.
-/

namespace DeviceRelay

variable {ε ε' α β : Type}

theorem map_eq_ok {x : Except ε α} {f : α → β} {b : β} :
    x.map f = .ok b ↔ ∃ a, x = .ok a ∧ f a = b := by
  cases x <;> simp [Except.map]

/-- A step whose result is known where there is one, with its result in other words. -/
theorem map_eq_ok_iff_of {x : Except ε α} {p : Prop} {a : α} {f : α → β} {b : β}
    (h : ∀ a', x = .ok a' ↔ p ∧ a = a') : x.map f = .ok b ↔ p ∧ f a = b := by
  rw [map_eq_ok]
  constructor
  · rintro ⟨a', ha, rfl⟩
    obtain ⟨hp, rfl⟩ := (h a').mp ha
    exact ⟨hp, rfl⟩
  · rintro ⟨hp, rfl⟩
    exact ⟨a, (h a).mpr ⟨hp, rfl⟩, rfl⟩

theorem map_injective {f : α → β} (hf : Function.Injective f) :
    Function.Injective (Except.map f : Except ε α → Except ε β) := by
  intro x y h
  cases x with
  | error e =>
    cases y with
    | error e' => rw [Except.error.inj h]
    | ok b => cases h
  | ok a =>
    cases y with
    | error e' => cases h
    | ok b => rw [hf (Except.ok.inj h)]

theorem map_map {γ : Type} (x : Except ε α) (f : α → β) (g : β → γ) : (x.map f).map g = x.map fun a => g (f a) := by
  cases x <;> rfl

theorem bind_eq_ok {x : Except ε α} {f : α → Except ε β} {b : β} :
    x.bind f = .ok b ↔ ∃ a, x = .ok a ∧ f a = .ok b := by
  cases x <;> simp [Except.bind]

theorem map_bind {γ : Type} {x : Except ε α} {f : α → Except ε β} {g : β → γ} :
    (x.bind f).map g = x.bind fun a => (f a).map g := by
  cases x <;> rfl

theorem bind_map {γ : Type} {x : Except ε α} {f : α → β} {g : β → Except ε γ} :
    (x.map f).bind g = x.bind fun a => g (f a) := by
  cases x <;> rfl

/-- A check in front of a step. -/
theorem check_bind_eq_ok {x : Except ε Unit} {f : Unit → Except ε β} {b : β} :
    x.bind f = .ok b ↔ x = .ok () ∧ f () = .ok b := by
  cases x <;> simp [Except.bind]

theorem mapError_eq_ok {x : Except ε α} {f : ε → ε'} {a : α} :
    x.mapError f = .ok a ↔ x = .ok a := by
  cases x with
  | error e => constructor <;> intro h <;> cases h
  | ok b => constructor <;> intro h <;> cases h <;> rfl

theorem ite_error_eq_ok {p : Prop} [Decidable p] {e : ε} {x : Except ε α} {a : α} :
    (if p then .error e else x) = .ok a ↔ ¬p ∧ x = .ok a := by
  by_cases h : p <;> simp [h]

theorem exists_eq_ok_of_isSome {x : Except ε α} (h : x.toOption.isSome = true) : ∃ a, x = .ok a := by
  cases x with
  | error e => cases h
  | ok a => exact ⟨a, rfl⟩

theorem toOption_map (x : Except ε α) (f : α → β) : (x.map f).toOption = x.toOption.map f := by
  cases x <;> rfl

/-- A step for each item is the step for the first, and then the steps for the others. -/
theorem mapM_cons_eq (f : α → Except ε β) (a : α) (as : List α) :
    (a :: as).mapM f = (f a).bind fun b => (as.mapM f).map (b :: ·) := by
  rw [List.mapM_cons]
  cases f a with
  | error e => rfl
  | ok b => cases as.mapM f <;> rfl

theorem mapM_eq_ok {f : α → Except ε β} {as : List α} {bs : List β} :
    as.mapM f = .ok bs ↔ as.map f = bs.map .ok := by
  induction as generalizing bs with
  | nil => simp [pure, Except.pure, eq_comm]
  | cons a rest ih =>
    rw [mapM_cons_eq, bind_eq_ok, List.map_cons, eq_comm (a := f a :: _), List.map_eq_cons_iff]
    simp only [map_eq_ok]
    constructor
    · rintro ⟨b, hb, more, hmore, rfl⟩
      exact ⟨b, more, rfl, hb.symm, (ih.mp hmore).symm⟩
    · rintro ⟨b, more, rfl, hb, hmore⟩
      exact ⟨b, hb.symm, more, ih.mpr hmore.symm, rfl⟩

/-- A step whose result is known where there is one: for all items there is a list of results exactly if there is a
result for each. -/
theorem mapM_eq_ok_iff_forall {p : α → Prop} {g : α → β} {f : α → Except ε β} {as : List α} {bs : List β}
    (h : ∀ a ∈ as, ∀ b, f a = .ok b ↔ p a ∧ g a = b) : as.mapM f = .ok bs ↔ (∀ a ∈ as, p a) ∧ as.map g = bs := by
  induction as generalizing bs with
  | nil => simp [pure, Except.pure]
  | cons a rest ih =>
    obtain ⟨ha, hrest⟩ := List.forall_mem_cons.mp h
    have ih' (more : List β) : rest.mapM f = .ok more ↔ (∀ a ∈ rest, p a) ∧ rest.map g = more := ih hrest
    simp only [mapM_cons_eq, bind_eq_ok, map_eq_ok, ha, ih', List.forall_mem_cons, List.map_cons]
    constructor
    · rintro ⟨b, ⟨hpa, rfl⟩, more, ⟨hpmore, rfl⟩, rfl⟩
      exact ⟨⟨hpa, hpmore⟩, rfl⟩
    · rintro ⟨⟨hpa, hpmore⟩, rfl⟩
      exact ⟨g a, ⟨hpa, rfl⟩, rest.map g, ⟨hpmore, rfl⟩, rfl⟩

/-- Each result is the result for an item. -/
theorem exists_mem_of_mapM {f : α → Except ε β} {as : List α} {bs : List β} (h : as.mapM f = .ok bs) {b : β}
    (hb : b ∈ bs) : ∃ a ∈ as, f a = .ok b := by
  have hmem : Except.ok b ∈ as.map f := by
    rw [mapM_eq_ok.mp h]
    exact List.mem_map_of_mem hb
  exact List.mem_map.mp hmem

/-- What holds of every result of a step holds of all results. -/
theorem forall_mem_of_mapM {p : β → Prop} {f : α → Except ε β} {as : List α} {bs : List β}
    (h : as.mapM f = .ok bs) (hf : ∀ a b, f a = .ok b → p b) : ∀ b ∈ bs, p b := by
  intro b hb
  obtain ⟨a, -, ha⟩ := exists_mem_of_mapM h hb
  exact hf a b ha

namespace Checked

theorem both_eq_ok {x : Checked α} {y : Checked β} {p : α × β} :
    both x y = .ok p ↔ x = .ok p.1 ∧ y = .ok p.2 := by
  cases x <;> cases y <;> simp [both, Prod.ext_iff]

theorem under_eq_ok {step : PathStep} {x : Checked α} {a : α} : under step x = .ok a ↔ x = .ok a :=
  mapError_eq_ok

theorem items_cons_eq_ok {f : α → Checked β} {n : Nat} {item : α} {rest : List α} {bs : List β} :
    items f n (item :: rest) = .ok bs ↔
      ∃ b more, f item = .ok b ∧ items f (n + 1) rest = .ok more ∧ bs = b :: more := by
  rw [items, map_eq_ok]
  constructor
  · rintro ⟨⟨b, more⟩, hboth, rfl⟩
    obtain ⟨hitem, hrest⟩ := both_eq_ok.mp hboth
    exact ⟨b, more, under_eq_ok.mp hitem, hrest, rfl⟩
  · rintro ⟨b, more, hitem, hrest, rfl⟩
    exact ⟨(b, more), both_eq_ok.mpr ⟨under_eq_ok.mpr hitem, hrest⟩, rfl⟩

/-- All items are read one by one, whatever position they are counted from. -/
theorem items_eq_ok {f : α → Checked β} {n : Nat} {values : List α} {bs : List β} :
    items f n values = .ok bs ↔ values.map f = bs.map .ok := by
  induction values generalizing n bs with
  | nil => simp [items, eq_comm]
  | cons item rest ih =>
    rw [items_cons_eq_ok, List.map_cons, eq_comm, List.map_eq_cons_iff]
    constructor
    · rintro ⟨b, more, hitem, hrest, rfl⟩
      exact ⟨b, more, rfl, hitem.symm, (ih.mp hrest).symm⟩
    · rintro ⟨b, more, rfl, hitem, hrest⟩
      exact ⟨b, more, hitem.symm, ih.mpr hrest.symm, rfl⟩

/-- Items that were made from results are read as these. -/
theorem items_map_eq_ok {f : α → Checked β} {g : β → α} {n : Nat} {bs : List β}
    (h : ∀ b ∈ bs, f (g b) = .ok b) : items f n (bs.map g) = .ok bs := by
  rw [items_eq_ok, List.map_map]
  exact List.map_congr_left h

/-- What is made of the results of items can be made of the items. -/
theorem map_eq_of_items_eq_ok {γ : Type} {f : α → Checked β} {g : β → γ} {k : α → γ} {n : Nat}
    {values : List α} {bs : List β} (hk : ∀ a ∈ values, ∀ b, f a = .ok b → g b = k a)
    (h : items f n values = .ok bs) : bs.map g = values.map k := by
  induction values generalizing n bs with
  | nil =>
    obtain rfl := Except.ok.inj h
    rfl
  | cons item rest ih =>
    obtain ⟨b, more, hitem, hrest, rfl⟩ := items_cons_eq_ok.mp h
    rw [List.map_cons, List.map_cons, hk item List.mem_cons_self b hitem,
      ih (fun a ha => hk a (List.mem_cons_of_mem _ ha)) hrest]

/-! ### Results in other words -/

section Map

variable {γ δ : Type}

theorem under_map (step : PathStep) (x : Checked α) (f : α → β) : (under step x).map f = under step (x.map f) := by
  cases x <;> rfl

theorem both_map (x : Checked α) (y : Checked β) (f : α → γ) (g : β → δ) :
    (both x y).map (fun p => (f p.1, g p.2)) = both (x.map f) (y.map g) := by
  cases x <;> cases y <;> rfl

theorem items_map (f : α → Checked β) (g : β → γ) (n : Nat) (values : List α) :
    (items f n values).map (List.map g) = items (fun a => (f a).map g) n values := by
  induction values generalizing n with
  | nil => rfl
  | cons item rest ih =>
    rw [items, items, ← ih, ← under_map, ← both_map]
    cases both (under (.index n) (f item)) (items f (n + 1) rest) <;> rfl

/-- What is read of the items is read of each at its position. -/
theorem items_congr {f : α → Checked β} {n : Nat} {values values' : List α} (h : values.map f = values'.map f) :
    items f n values = items f n values' := by
  induction values generalizing n values' with
  | nil =>
    obtain rfl := List.map_eq_nil_iff.mp h.symm
    rfl
  | cons item rest ih =>
    obtain ⟨item', rest', rfl, hitem, hrest⟩ := List.map_eq_cons_iff.mp h.symm
    rw [items, items, hitem, ih hrest.symm]

end Map

end Checked

end DeviceRelay
