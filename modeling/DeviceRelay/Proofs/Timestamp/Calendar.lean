import DeviceRelay.Timestamp.Calendar

/-!
# The years of the calendar

`Date.ofDays` counts years from March and in eras of four hundred. Which days belong to the years 1 to 9999
is decided in two years only: the one under way when the calendar begins, and the one under way when it
ends. Every other year lies wholly on one side.

* `year_ofDays_iff` — the first and the last day of the calendar.
-/

namespace DeviceRelay.Date

/-- The year of a day of an era of four hundred years. -/
def yearOfEra (dayOfEra : Int) : Int :=
  (dayOfEra - dayOfEra / 1460 + dayOfEra / 36524 - dayOfEra / 146096) / 365

/-- The day of its year of a day of an era. -/
def dayOfYear (dayOfEra : Int) : Int :=
  dayOfEra - (365 * yearOfEra dayOfEra + yearOfEra dayOfEra / 4 - yearOfEra dayOfEra / 100)

/-- The years of an era begin in March, so that their last two months belong to the next year. -/
theorem year_ofDays (n : Int) :
    (ofDays n).year = yearOfEra ((n + 719468) % 146097) + (n + 719468) / 146097 * 400 +
      if (5 * dayOfYear ((n + 719468) % 146097) + 2) / 153 < 10 then 0 else 1 := by
  have hday : n + 719468 - (n + 719468) / 146097 * 146097 = (n + 719468) % 146097 := by omega
  unfold ofDays dayOfYear yearOfEra
  rw [← hday]
  dsimp only
  rw [Int.fdiv_eq_ediv_of_nonneg _ (by omega)]
  split
  · exact (Int.add_zero _).symm
  · rfl

theorem yearOfEra_bounds {d : Int} (h₀ : 0 ≤ d) (h₁ : d < 146097) :
    0 ≤ yearOfEra d ∧ yearOfEra d ≤ 399 := by
  unfold yearOfEra
  omega

/-- The first year of an era. -/
theorem yearOfEra_eq_zero {d : Int} (h₀ : 0 ≤ d) (h : d < 365) : yearOfEra d = 0 := by
  unfold yearOfEra
  omega

/-- The last year of an era. -/
theorem yearOfEra_eq_last {d : Int} (h : 145731 ≤ d) (h₁ : d < 146097) : yearOfEra d = 399 := by
  unfold yearOfEra
  omega

/-- The first of January of the year 1 lies 719162 days before 1970, the last of December of the year 9999
lies 2932896 days after it. -/
theorem year_ofDays_iff (n : Int) :
    (1 ≤ (ofDays n).year ↔ -719162 ≤ n) ∧ ((ofDays n).year ≤ 9999 ↔ n ≤ 2932896) := by
  rw [year_ofDays]
  have hsum := Int.mul_ediv_add_emod (n + 719468) 146097
  have hd₀ : 0 ≤ (n + 719468) % 146097 := by omega
  have hd₁ : (n + 719468) % 146097 < 146097 := by omega
  have hyear := yearOfEra_bounds hd₀ hd₁
  generalize (n + 719468) / 146097 = era at *
  generalize (n + 719468) % 146097 = d at *
  constructor
  · by_cases hzero : era = 0 ∧ d < 365
    · -- the year under way when the calendar begins
      obtain ⟨rfl, hd⟩ := hzero
      rw [dayOfYear, yearOfEra_eq_zero hd₀ hd]
      split <;> omega
    · have hlater : era = 0 → 1 ≤ yearOfEra d := by unfold yearOfEra; omega
      split <;> omega
  · by_cases hlast : era = 24 ∧ 145731 ≤ d
    · -- the year under way when the calendar ends
      obtain ⟨rfl, hd⟩ := hlast
      rw [dayOfYear, yearOfEra_eq_last hd hd₁]
      split <;> omega
    · have hearlier : era = 24 → yearOfEra d ≤ 398 := by unfold yearOfEra; omega
      split <;> omega

end DeviceRelay.Date
