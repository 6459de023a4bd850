import DeviceRelay.Proofs.Timestamp.Calendar
import Mathlib.Tactic.IntervalCases

/-!
# Days and dates

A day of an era of four hundred years is told by its century, the four years in it, the year in those and the day of
that year:

    day = 36524 · century + 1461 · fourYears + 365 · year + dayOfYear

The last century has one day more, and so have the last of four years, unless it is the last of a century as well.
`Date.ofDays` finds the four numbers by division, with corrections for the days that are left over.

* `Date.isValid_ofDays` — a day of the calendar has a date.
* `Date.days_ofDays` — the date of a day tells the day.
-/

namespace DeviceRelay.Date

/-- A day of an era. The days of a year are counted from 0; only the last year of four has a day 365, and the last of
a century only if that is the last of the era. -/
structure EraDay (century fourYears year day : Int) : Prop where
  century_bounds : 0 ≤ century ∧ century ≤ 3
  fourYears_bounds : 0 ≤ fourYears ∧ fourYears ≤ 24
  year_bounds : 0 ≤ year ∧ year ≤ 3
  day_nonneg : 0 ≤ day
  day_le : day ≤ 364 ∨ day = 365 ∧ year = 3 ∧ (fourYears ≤ 23 ∨ century = 3)

theorem exists_eraDay {d : Int} (h₀ : 0 ≤ d) (h₁ : d < 146097) :
    ∃ century fourYears year day, EraDay century fourYears year day ∧
      d = 36524 * century + 1461 * fourYears + 365 * year + day := by
  have hcentury : ∃ century r, (0 ≤ century ∧ century ≤ 3) ∧ d = 36524 * century + r ∧ 0 ≤ r ∧
      (r ≤ 36523 ∨ r = 36524 ∧ century = 3) :=
    ⟨min 3 (d / 36524), d - 36524 * min 3 (d / 36524), by omega, by omega, by omega, by omega⟩
  obtain ⟨century, r, hcentury, rfl, hr₀, hr₁⟩ := hcentury
  have hyear : ∃ year s, (0 ≤ year ∧ year ≤ 3) ∧ r % 1461 = 365 * year + s ∧ 0 ≤ s ∧ (s ≤ 364 ∨ s = 365 ∧ year = 3) :=
    ⟨min 3 (r % 1461 / 365), r % 1461 - 365 * min 3 (r % 1461 / 365), by omega, by omega, by omega, by omega⟩
  obtain ⟨year, s, hyear, hs, hs₀, hs₁⟩ := hyear
  exact ⟨century, r / 1461, year, s, ⟨hcentury, by omega, hyear, hs₀, by omega⟩, by omega⟩

section EraDay

variable {century fourYears year day : Int} (h : EraDay century fourYears year day)

include h

theorem EraDay.yearOfEra_eq :
    yearOfEra (36524 * century + 1461 * fourYears + 365 * year + day) = 100 * century + 4 * fourYears + year := by
  obtain ⟨hcentury, hfour, hyear, hday, hlast⟩ := h
  unfold yearOfEra
  generalize hd : 36524 * century + 1461 * fourYears + 365 * year + day = d
  -- the corrections: leap days so far, with the day of a leap year under way, and centuries so far
  have hleaps : d / 1460 = 25 * century + fourYears ∧ 24 * century + fourYears + 365 * year + day < 1460 ∨
      d / 1460 = 25 * century + fourYears + 1 ∧ 1460 ≤ 24 * century + fourYears + 365 * year + day := by omega
  have hcenturies : d = 146096 ∧ century = 3 ∨ d < 146096 ∧ d / 36524 = century := by omega
  have hall : d / 36524 - d / 146096 = century := by
    rcases hcenturies with ⟨rfl, rfl⟩ | ⟨hlast, hcentury⟩
    · rfl
    · omega
  omega

theorem EraDay.dayOfYear_eq :
    dayOfYear (36524 * century + 1461 * fourYears + 365 * year + day) = day := by
  have hyear := h.yearOfEra_eq
  obtain ⟨hcentury, hfour, hyear', hday, hlast⟩ := h
  rw [dayOfYear, hyear]
  omega

/-- The months of a year begin with March, and five of them have 153 days. -/
theorem EraDay.month_bounds : 0 ≤ (5 * day + 2) / 153 ∧ (5 * day + 2) / 153 ≤ 11 := by
  obtain ⟨-, -, -, hday, hlast⟩ := h
  omega

theorem EraDay.one_le_dayOfMonth : 1 ≤ day - (153 * ((5 * day + 2) / 153) + 2) / 5 + 1 := by
  obtain ⟨-, -, -, hday, hlast⟩ := h
  omega

/-- The year that ends with the day 365 of a year from March on is a leap year. -/
theorem EraDay.isLeap (era : Int) (hday : day = 365) :
    isLeap (100 * century + 4 * fourYears + year + era * 400 + 1) = true := by
  obtain ⟨hcentury, hfour, -, -, hlast⟩ := h
  have hyear : year = 3 ∧ (fourYears ≤ 23 ∨ century = 3) := by omega
  simp only [Date.isLeap, Bool.and_eq_true, Bool.or_eq_true, beq_iff_eq, bne_iff_ne]
  omega

end EraDay

/-- The date of a day of an era. The last two months of a year from March on belong to the next year. -/
def EraDay.date (era century fourYears year day : Int) : Date :=
  let month := (5 * day + 2) / 153
  let dayOfMonth := (day - (153 * month + 2) / 5 + 1).toNat
  if month < 10 then ⟨100 * century + 4 * fourYears + year + era * 400, (month + 3).toNat, dayOfMonth⟩
  else ⟨100 * century + 4 * fourYears + year + era * 400 + 1, (month - 9).toNat, dayOfMonth⟩

/-- Each day is a day of an era, and its date is the date of that. -/
theorem exists_ofDays_eq (n : Int) :
    ∃ era century fourYears year day, EraDay century fourYears year day ∧
      n + 719468 = era * 146097 + (36524 * century + 1461 * fourYears + 365 * year + day) ∧
        ofDays n = EraDay.date era century fourYears year day := by
  obtain ⟨century, fourYears, year, day, h, hd⟩ :=
    exists_eraDay (d := n + 719468 - (n + 719468) / 146097 * 146097) (by omega) (by omega)
  refine ⟨(n + 719468) / 146097, century, fourYears, year, day, h, by omega, ?_⟩
  have hyear := h.yearOfEra_eq
  have hday := h.dayOfYear_eq
  rw [← hd] at hyear hday
  unfold dayOfYear at hday
  unfold yearOfEra at hyear hday
  unfold ofDays EraDay.date
  dsimp only
  rw [Int.fdiv_eq_ediv_of_nonneg _ (by omega)]
  rw [hyear] at hday ⊢
  rw [hday]

section EraDay

variable (era : Int) {century fourYears year day : Int} (h : EraDay century fourYears year day)

include h

/-- No month has more days than it should. February, which comes last, has what is left of the year. -/
theorem EraDay.day_le_daysIn :
    (date era century fourYears year day).day ≤
      daysIn (date era century fourYears year day).year (date era century fourYears year day).month := by
  have hmonth := h.month_bounds
  have hleap := h.isLeap era
  obtain ⟨-, -, -, hday, hlast⟩ := h
  unfold date
  generalize hm : (5 * day + 2) / 153 = month at hmonth ⊢
  obtain ⟨hlow, hhigh⟩ := hmonth
  by_cases hfebruary : month = 11
  · subst hfebruary
    simp only [daysIn, Int.reduceLT, Int.reduceMul, Int.reduceAdd, Int.reduceDiv, Int.reduceSub, Int.reduceToNat,
      if_false, if_true]
    by_cases hlong : day = 365
    · rw [if_pos (hleap hlong)]
      omega
    · split <;> omega
  · have hother : month ≤ 10 := by omega
    interval_cases month <;> simp [daysIn] <;> omega

/-- The date of a day of an era tells the day. -/
theorem EraDay.days_date :
    (date era century fourYears year day).days =
      era * 146097 + (36524 * century + 1461 * fourYears + 365 * year + day) - 719468 := by
  have hmonth := h.month_bounds
  have hone := h.one_le_dayOfMonth
  obtain ⟨hcentury, hfour, hyear, hday, hlast⟩ := h
  unfold date
  generalize hm : (5 * day + 2) / 153 = month at hmonth hone ⊢
  have hera (k : Int) (hk : k = 100 * century + 4 * fourYears + year + era * 400) :
      k.fdiv 400 = era ∧ (k - era * 400) / 4 = 25 * century + fourYears ∧ (k - era * 400) / 100 = century := by
    rw [Int.fdiv_eq_ediv_of_nonneg _ (by omega)]
    omega
  by_cases hten : month < 10
  · have hlate : ¬(month + 3).toNat ≤ 2 := by omega
    obtain ⟨hera, hleaps, hcenturies⟩ := hera _ rfl
    simp only [if_pos hten, days, if_neg hlate, hera, hleaps, hcenturies]
    omega
  · have hearly : (month - 9).toNat ≤ 2 := by omega
    obtain ⟨hera, hleaps, hcenturies⟩ := hera _ (Int.add_sub_cancel _ 1)
    simp only [if_neg hten, days, if_pos hearly, hera, hleaps, hcenturies]
    omega

end EraDay

/-- A day of the years 1 to 9999 has a date. -/
theorem isValid_ofDays {n : Int} (h₀ : -719162 ≤ n) (h₁ : n ≤ 2932896) : (ofDays n).isValid = true := by
  have hlow := (year_ofDays_iff n).1.mpr h₀
  have hhigh := (year_ofDays_iff n).2.mpr h₁
  obtain ⟨era, century, fourYears, year, day, h, -, hdate⟩ := exists_ofDays_eq n
  have hday := h.day_le_daysIn era
  have hmonth := h.month_bounds
  have hone := h.one_le_dayOfMonth
  rw [hdate] at hlow hhigh ⊢
  simp only [isValid, Bool.and_eq_true, decide_eq_true_eq]
  refine ⟨⟨⟨⟨⟨by omega, hhigh⟩, ?_⟩, ?_⟩, ?_⟩, hday⟩
  all_goals
    unfold EraDay.date
    dsimp only
    split <;> dsimp only <;> omega

/-- The date of a day tells the day. -/
theorem days_ofDays (n : Int) : (ofDays n).days = n := by
  obtain ⟨era, century, fourYears, year, day, h, hn, hdate⟩ := exists_ofDays_eq n
  rw [hdate, h.days_date era, ← hn, Int.add_sub_cancel]

end DeviceRelay.Date
