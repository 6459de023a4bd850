import DeviceRelay.Proofs.Checked

/-!
# What a failure tells

The counterpart of what a success tells: a row of steps fails as one of its steps does, and the steps before
that one have succeeded.

* `map_eq_error`, `bind_eq_error`, `mapError_eq_error`, `mapM_eq_error` — which step failed.
* `FailsOnly` — all failures of a step are of one sort. The lemmas about it take a row of steps apart.
-/

namespace DeviceRelay

variable {ε ε' α β : Type}

theorem map_eq_error {x : Except ε α} {f : α → β} {e : ε} : x.map f = .error e ↔ x = .error e := by
  cases x <;> simp [Except.map]

theorem bind_eq_error {x : Except ε α} {f : α → Except ε β} {e : ε} :
    x.bind f = .error e ↔ x = .error e ∨ ∃ a, x = .ok a ∧ f a = .error e := by
  cases x <;> simp [Except.bind]

theorem mapError_ok {f : ε → ε'} {a : α} : (Except.ok a : Except ε α).mapError f = .ok a := rfl

theorem mapError_error {f : ε → ε'} {e : ε} : (Except.error e : Except ε α).mapError f = .error (f e) := rfl

theorem mapError_eq_error {x : Except ε α} {f : ε → ε'} {e : ε'} :
    x.mapError f = .error e ↔ ∃ e', x = .error e' ∧ f e' = e := by
  cases x with
  | error e' =>
    rw [mapError_error]
    simp
  | ok a =>
    rw [mapError_ok]
    simp

/-- Of several items the first that fails decides. -/
theorem mapM_eq_error {f : α → Except ε β} {as : List α} {e : ε} :
    as.mapM f = .error e ↔
      ∃ front a back, as = front ++ a :: back ∧ (∀ b ∈ front, ∃ c, f b = .ok c) ∧ f a = .error e := by
  induction as with
  | nil => simp [pure, Except.pure]
  | cons a rest ih =>
    -- either the first item fails, or it succeeds and is one more in front of the one that does
    rw [mapM_cons_eq, bind_eq_error]
    simp only [map_eq_error, ih]
    constructor
    · rintro (ha | ⟨b, hb, front, a', back, rfl, hfront, ha'⟩)
      · exact ⟨[], a, rest, rfl, by simp, ha⟩
      · refine ⟨a :: front, a', back, rfl, ?_, ha'⟩
        rw [List.forall_mem_cons]
        exact ⟨⟨b, hb⟩, hfront⟩
    · rintro ⟨front, a', back, heq, hfront, ha'⟩
      cases front with
      | nil =>
        obtain ⟨rfl, rfl⟩ := List.cons.inj heq
        exact Or.inl ha'
      | cons b front =>
        obtain ⟨rfl, rfl⟩ := List.cons.inj heq
        obtain ⟨⟨c, hc⟩, hfront⟩ := List.forall_mem_cons.mp hfront
        exact Or.inr ⟨c, hc, front, a', back, rfl, hfront, ha'⟩

/-! ### Failures of one sort -/

/-- Every failure of a step satisfies `P`. -/
def FailsOnly (P : ε → Prop) (x : Except ε α) : Prop := ∀ e, x = .error e → P e

section FailsOnly

variable {P Q : ε → Prop}

theorem failsOnly_ok {a : α} : FailsOnly P (.ok a) := by
  intro e h
  cases h

theorem failsOnly_error {e : ε} : FailsOnly P (.error e : Except ε α) ↔ P e := by
  constructor
  · exact fun h => h e rfl
  · rintro he e' h
    cases h
    exact he

theorem failsOnly_ite {p : Prop} [Decidable p] {e : ε} {x : Except ε α} (he : P e) (hx : FailsOnly P x) :
    FailsOnly P (if p then .error e else x) := by
  split
  · exact failsOnly_error.mpr he
  · exact hx

theorem FailsOnly.mono {x : Except ε α} (h : FailsOnly P x) (hPQ : ∀ e, P e → Q e) : FailsOnly Q x :=
  fun e he => hPQ e (h e he)

theorem failsOnly_map {x : Except ε α} {f : α → β} : FailsOnly P (x.map f) ↔ FailsOnly P x :=
  forall_congr' fun _ => imp_congr_left map_eq_error

theorem failsOnly_bind {x : Except ε α} {f : α → Except ε β} :
    FailsOnly P (x.bind f) ↔ FailsOnly P x ∧ ∀ a, x = .ok a → FailsOnly P (f a) := by
  cases x with
  | error e => simp [Except.bind, failsOnly_error]
  | ok a => simp [Except.bind, failsOnly_ok]

/-- A step that either succeeds or fails in another way, before one that does not depend on its result. -/
theorem failsOnly_bind_of_succeeds {x : Except ε α} {f : α → Except ε β} {p : Prop}
    (hx : FailsOnly P x → ∃ a, x = .ok a) (hf : ∀ a, FailsOnly P (f a) ↔ p) :
    FailsOnly P (x.bind f) ↔ FailsOnly P x ∧ p := by
  rw [failsOnly_bind]
  refine and_congr_right fun h => ?_
  obtain ⟨a, rfl⟩ := hx h
  simp [hf]

theorem failsOnly_mapError {P : ε' → Prop} {x : Except ε α} {f : ε → ε'} (h : ∀ e, P (f e)) :
    FailsOnly P (x.mapError f) := by
  intro e he
  obtain ⟨e', -, rfl⟩ := mapError_eq_error.mp he
  exact h e'

/-- Of several items the first that fails decides on the sort. -/
theorem failsOnly_mapM_iff {f : α → Except ε β} {as : List α} :
    FailsOnly P (as.mapM f) ↔
      ∀ front a back, as = front ++ a :: back → (∀ b ∈ front, ∃ c, f b = .ok c) → FailsOnly P (f a) := by
  constructor
  · intro h front a back has hfront e ha
    exact h e (mapM_eq_error.mpr ⟨front, a, back, has, hfront, ha⟩)
  · intro h e he
    obtain ⟨front, a, back, has, hfront, ha⟩ := mapM_eq_error.mp he
    exact h front a back has hfront e ha

theorem failsOnly_mapM {f : α → Except ε β} {as : List α} (h : ∀ a, FailsOnly P (f a)) :
    FailsOnly P (as.mapM f) :=
  failsOnly_mapM_iff.mpr fun _ a _ _ _ => h a

end FailsOnly

end DeviceRelay
