import DeviceRelay.Timestamp.EpochMillis
import DeviceRelay.Proofs.Binary64
import DeviceRelay.Proofs.Timestamp.Calendar
import Mathlib.Tactic.LinearCombination

/-!
# Timestamps from epoch milliseconds, exactly

The division by a thousand and the rounding of the fraction leave noise in the microseconds, but not much: for
dates of the calendar it stays below forty microseconds, and milliseconds lie a thousand apart. So the noise
neither changes the order of two dates nor moves one into the calendar or out of it.

    1000 * millis - 40 ≤ wall ≤ 1000 * millis + 40

* `wall_of_ofEpochMillis` — that bound.
* `ofEpochMillis_isOk_iff` — exactly the milliseconds of the years 1 to 9999 make a timestamp.
* `wall_lt_of_ofEpochMillis` — later milliseconds make later timestamps.
-/

namespace DeviceRelay.Timestamp

open Binary64

/-! ### Seconds with a fraction -/

/-- A fraction below one is rounded to its microseconds. -/
theorem abs_fractionMicros_sub_le {num den : Nat} (h : num < den) :
    |(fractionMicros num den : ℚ) - 1000000 * (num / den)| ≤ 501 / 1000 := by
  have hden : 0 < den := Nat.zero_lt_of_lt h
  have hden' : (0 : ℚ) < den := by exact_mod_cast hden
  have hmicros : ((num * 1000000 : Nat) : ℚ) / den = 1000000 * (num / den) := by push_cast; ring
  have hbelow : ((num * 1000000 : Nat) : ℚ) / den ≤ 1000000 := by
    rw [div_le_iff₀ hden']
    exact_mod_cast (by omega : num * 1000000 ≤ 1000000 * den)
  -- the product is rounded to a binary64 value, and that to a whole number
  obtain ⟨m, e, hcanonical, hnearest⟩ := exists_nearest_eq_finite false (num * 1000000) hden
    (lt_of_le_of_lt hbelow (by norm_num))
  obtain ⟨-, herr⟩ := abs_sub_le_of_nearest hden hnearest
  have hdown := scaled_pos m e
  have hround := abs_roundHalfEven_sub_le (scaled m e).1 hdown
  have hslack := slack_le hbelow
  rw [scaled_div] at hround
  rw [fractionMicros, hnearest, rounded]
  dsimp only
  rw [hmicros] at herr hslack
  have htriangle := abs_sub_le (roundHalfEven (scaled m e).1 (scaled m e).2 : ℚ) (m * 2 ^ e)
    (1000000 * (num / den))
  norm_num at hslack
  linarith

theorem fractionMicros_le {num den : Nat} (h : num < den) : fractionMicros num den ≤ 1000000 := by
  have hden' : (0 : ℚ) < den := by exact_mod_cast Nat.zero_lt_of_lt h
  have herr := (abs_le.mp (abs_fractionMicros_sub_le h)).2
  have hbelow : (num : ℚ) / den < 1 := by
    rw [div_lt_one hden']
    exact_mod_cast h
  have hlt : (fractionMicros num den : ℚ) < (1000000 + 1 : Nat) := by
    push_cast
    linarith
  have := Nat.cast_lt.mp hlt
  omega

/-- The sign of a number, as a factor. -/
def signOf (negative : Bool) : Int := if negative then -1 else 1

theorem abs_signOf (negative : Bool) : |(signOf negative : ℚ)| = 1 := by
  cases negative <;> simp [signOf]

/-- The microseconds of a quotient of seconds: those of its whole part and those of the rest. -/
def quotientMicros (num den : Nat) : Nat := num / den * 1000000 + fractionMicros (num % den) den

/-- Seconds and microseconds make up the microseconds of the quotient, and the latter are fewer than a second. -/
theorem splitSeconds_eq (negative : Bool) {num den : Nat} (hden : 0 < den) :
    (splitSeconds negative num den).2 < 1000000 ∧
      (splitSeconds negative num den).1 * 1000000 + (splitSeconds negative num den).2 =
        signOf negative * quotientMicros num den := by
  have hmicros := fractionMicros_le (Nat.mod_lt num hden)
  unfold splitSeconds signOf quotientMicros
  dsimp only
  generalize num / den = whole
  generalize fractionMicros (num % den) den = micros at *
  cases negative with
  | true =>
    rw [if_pos rfl, if_pos rfl]
    split <;> dsimp only <;> omega
  | false =>
    rw [if_neg Bool.false_ne_true, if_neg Bool.false_ne_true]
    split <;> dsimp only <;> omega

/-- They are the quotient, to the microsecond. -/
theorem abs_quotientMicros_sub_le (num : Nat) {den : Nat} (hden : 0 < den) :
    |(quotientMicros num den : ℚ) - 1000000 * (num / den)| ≤ 501 / 1000 := by
  rw [div_eq_add_rest num hden, quotientMicros]
  refine le_of_eq_of_le ?_ (abs_fractionMicros_sub_le (Nat.mod_lt num hden))
  congr 1
  push_cast
  ring

/-! ### From milliseconds to microseconds -/

theorem signOf_mul_natAbs (n : Int) : signOf (n < 0) * n.natAbs = n := by
  unfold signOf
  by_cases h : n < 0
  · rw [if_pos (decide_eq_true h)]; omega
  · rw [if_neg (by simpa using h)]; omega

theorem natAbs_div_thousand (n : Int) : (n.natAbs : ℚ) / (1000 : Nat) = |(n : ℚ)| / 1000 := by
  rw [Nat.cast_natAbs, Int.cast_abs, Nat.cast_ofNat]

section Finite

variable {n : Int} {negative : Bool} {m : Nat} {e : Int} {h : Canonical m e}

/-- A number of milliseconds whose quotient is finite is read as seconds and microseconds that are those of the
quotient. -/
theorem exists_ofEpochMillis_eq (hnearest : nearest (n < 0) n.natAbs 1000 = .finite negative m e h) :
    ∃ (seconds : Int) (micros : Nat), ofEpochMillis n = ofSeconds seconds micros ∧ micros < 1000000 ∧
      seconds * 1000000 + micros = signOf (n < 0) * quotientMicros (scaled m e).1 (scaled m e).2 := by
  obtain ⟨rfl, -⟩ := value_of_nearest hnearest
  obtain ⟨hmicros, hsum⟩ := splitSeconds_eq (n < 0) (scaled_pos m e)
  refine ⟨_, _, ?_, hmicros, hsum⟩
  rw [ofEpochMillis, hnearest]

/-- What the quotient is off is a million times as much in microseconds. -/
theorem abs_million_sub_le {bound : ℚ} (hbound : |(m : ℚ) * 2 ^ e - n.natAbs / (1000 : Nat)| ≤ bound) :
    |1000000 * ((m : ℚ) * 2 ^ e) - 1000 * n.natAbs| ≤ 1000000 * bound := by
  calc |1000000 * ((m : ℚ) * 2 ^ e) - 1000 * n.natAbs|
    _ = |1000000 * ((m : ℚ) * 2 ^ e - n.natAbs / (1000 : Nat))| := by
        congr 1
        push_cast
        ring
    _ = 1000000 * |(m : ℚ) * 2 ^ e - n.natAbs / (1000 : Nat)| := by rw [abs_mul, abs_of_pos (by norm_num)]
    _ ≤ 1000000 * bound := by gcongr

/-- They are the milliseconds, as far as the quotient is a thousandth of those. -/
theorem abs_quotientMicros_sub_thousand_le {bound : ℚ}
    (hbound : |(m : ℚ) * 2 ^ e - n.natAbs / (1000 : Nat)| ≤ bound) :
    |((signOf (n < 0) * quotientMicros (scaled m e).1 (scaled m e).2 : Int) : ℚ) - 1000 * n| ≤
      1000000 * bound + 501 / 1000 := by
  have hquot := abs_quotientMicros_sub_le (scaled m e).1 (scaled_pos m e)
  rw [scaled_div] at hquot
  have hsign : ((signOf (n < 0) * n.natAbs : Int) : ℚ) = n := by rw [signOf_mul_natAbs]
  rw [Int.cast_mul, Int.cast_natCast] at hsign
  generalize quotientMicros (scaled m e).1 (scaled m e).2 = micros at *
  have hdiv := abs_million_sub_le hbound
  calc |((signOf (n < 0) * micros : Int) : ℚ) - 1000 * n|
    _ = |(signOf (n < 0) : ℚ) * (micros - 1000 * n.natAbs)| := by
        congr 1
        push_cast
        linear_combination (1000 : ℚ) * hsign
    _ = |(micros : ℚ) - 1000 * n.natAbs| := by rw [abs_mul, abs_signOf, one_mul]
    _ ≤ |(micros : ℚ) - 1000000 * (m * 2 ^ e)| + |1000000 * ((m : ℚ) * 2 ^ e) - 1000 * n.natAbs| :=
        abs_sub_le _ _ _
    _ ≤ 1000000 * bound + 501 / 1000 := by linarith

end Finite

/-! ### The calendar's seconds -/

/-- The seconds of the years 1 to 9999, and no others, make a timestamp. -/
theorem ofSeconds_eq_ok_iff {seconds : Int} {micros : Nat} {t : Timestamp} :
    ofSeconds seconds micros = .ok t ↔
      (-62135596800 ≤ seconds ∧ seconds ≤ 253402300799) ∧ utc (seconds * 1000000 + micros) = t := by
  have hyear := Date.year_ofDays_iff (seconds.fdiv 86400)
  have hdays : seconds.fdiv 86400 = seconds / 86400 := Int.fdiv_eq_ediv_of_nonneg _ (by decide)
  unfold ofSeconds
  dsimp only
  generalize (Date.ofDays (seconds.fdiv 86400)).year = year at *
  rw [hdays] at hyear
  split
  · next hfar => simp only [reduceCtorEq, false_iff, not_and]; omega
  split
  · next hfar => simp only [reduceCtorEq, false_iff, not_and]; omega
  split
  · next hfar => simp only [reduceCtorEq, false_iff, not_and]; omega
  · next hnear =>
    rw [Except.ok.injEq, and_iff_right (by omega)]

/-- What is left of the slack for dates of the calendar: the microseconds are those of the milliseconds, with
the noise of the division. -/
theorem exists_ofEpochMillis_near {n : Int} (hlow : -300000000000000 ≤ n) (hhigh : n ≤ 300000000000000) :
    ∃ (seconds : Int) (micros : Nat), ofEpochMillis n = ofSeconds seconds micros ∧ micros < 1000000 ∧
      1000 * n - 40 ≤ seconds * 1000000 + micros ∧ seconds * 1000000 + micros ≤ 1000 * n + 40 := by
  have hn : |(n : ℚ)| / 1000 ≤ 300000000000 := by
    have hle : |(n : ℚ)| ≤ 300000000000000 := by
      rw [abs_le]
      exact ⟨by exact_mod_cast hlow, by exact_mod_cast hhigh⟩
    linarith
  obtain ⟨m, e, hcanonical, hnearest⟩ := exists_nearest_eq_finite (n < 0) n.natAbs
    (show 0 < 1000 by decide) (by rw [natAbs_div_thousand]; exact lt_of_le_of_lt hn (by norm_num))
  have herr := abs_quotientMicros_sub_thousand_le (abs_sub_le_of_nearest (by decide) hnearest).2
  obtain ⟨seconds, micros, heq, hmicros, hsum⟩ := exists_ofEpochMillis_eq hnearest
  rw [← hsum, natAbs_div_thousand] at herr
  have hslack := slack_le hn
  norm_num at hslack
  have hnoise := abs_le.mp (herr.trans (show _ ≤ (40 : ℚ) by linarith))
  refine ⟨seconds, micros, heq, hmicros, ?_, ?_⟩
  · have : (1000 * n - 40 : ℚ) ≤ ((seconds * 1000000 + micros : Int) : ℚ) := by linarith
    exact_mod_cast this
  · have : ((seconds * 1000000 + micros : Int) : ℚ) ≤ (1000 * n + 40 : ℚ) := by linarith
    exact_mod_cast this

/-- A number of milliseconds that makes a timestamp is not far beyond the calendar. -/
theorem bounds_of_ofEpochMillis {n : Int} {t : Timestamp} (h : ofEpochMillis n = .ok t) :
    -300000000000000 ≤ n ∧ n ≤ 300000000000000 := by
  cases hnearest : nearest (n < 0) n.natAbs 1000 with
  | nan => rw [ofEpochMillis, hnearest] at h; cases h
  | infinite negative => rw [ofEpochMillis, hnearest] at h; cases h
  | finite negative m e hcanonical =>
    have herr := abs_quotientMicros_sub_thousand_le (abs_sub_le_of_nearest (by decide) hnearest).2
    obtain ⟨seconds, micros, heq, hmicros, hsum⟩ := exists_ofEpochMillis_eq hnearest
    rw [← hsum, natAbs_div_thousand] at herr
    rw [heq] at h
    obtain ⟨⟨hlow, hhigh⟩, -⟩ := ofSeconds_eq_ok_iff.mp h
    have hslack := slack_le (le_refl (|(n : ℚ)| / 1000))
    have hnoise : |((seconds * 1000000 + micros : Int) : ℚ)| ≤ 253402300800000000 := by
      rw [abs_le]
      constructor
      · exact_mod_cast (by omega : (-253402300800000000 : Int) ≤ seconds * 1000000 + micros)
      · exact_mod_cast (by omega : seconds * 1000000 + micros ≤ (253402300800000000 : Int))
    have htriangle := abs_sub_abs_le_abs_sub (1000 * (n : ℚ)) ((seconds * 1000000 + micros : Int) : ℚ)
    rw [abs_sub_comm, abs_mul, abs_of_pos (show (0 : ℚ) < 1000 by norm_num)] at htriangle
    norm_num at hslack
    have hle : |(n : ℚ)| ≤ 300000000000000 := by linarith
    rw [abs_le] at hle
    exact ⟨by exact_mod_cast hle.1, by exact_mod_cast hle.2⟩

/-! ### Exactly the calendar -/

/-- The milliseconds of the years 1 to 9999. -/
def InCalendar (millis : Int) : Prop := -62135596800000 ≤ millis ∧ millis ≤ 253402300799999

instance (millis : Int) : Decidable (InCalendar millis) := by unfold InCalendar; infer_instance

/-- The timestamp of milliseconds is theirs, with the noise of the division. -/
theorem wall_of_ofEpochMillis {n : Int} {t : Timestamp} (h : ofEpochMillis n = .ok t) :
    t.offset = some 0 ∧ 1000 * n - 40 ≤ t.wall ∧ t.wall ≤ 1000 * n + 40 := by
  obtain ⟨hlow, hhigh⟩ := bounds_of_ofEpochMillis h
  obtain ⟨seconds, micros, heq, hmicros, hnoise⟩ := exists_ofEpochMillis_near hlow hhigh
  rw [heq] at h
  obtain ⟨-, rfl⟩ := ofSeconds_eq_ok_iff.mp h
  exact ⟨rfl, hnoise⟩

/-- Exactly the milliseconds of the calendar make a timestamp. -/
theorem ofEpochMillis_isOk_iff (n : Int) : (∃ t, ofEpochMillis n = .ok t) ↔ InCalendar n := by
  -- the noise of the division decides nothing but the first moment of the calendar and the one behind it
  have hfirst : (ofEpochMillis (-62135596800000)).toOption.isSome = true := by decide +kernel
  have hbehind : (ofEpochMillis 253402300800000).toOption.isSome = false := by decide +kernel
  constructor
  · rintro ⟨t, h⟩
    obtain ⟨hlow, hhigh⟩ := bounds_of_ofEpochMillis h
    obtain ⟨seconds, micros, heq, hmicros, hnoise⟩ := exists_ofEpochMillis_near hlow hhigh
    obtain ⟨hseconds, -⟩ := ofSeconds_eq_ok_iff.mp (heq ▸ h)
    have hne : n ≠ 253402300800000 := by
      rintro rfl
      rw [h] at hbehind
      cases hbehind
    unfold InCalendar
    omega
  · rintro ⟨hlow, hhigh⟩
    obtain ⟨seconds, micros, heq, hmicros, hnoise⟩ :=
      exists_ofEpochMillis_near (n := n) (by omega) (by omega)
    rcases eq_or_lt_of_le hlow with rfl | hlow
    · cases hok : ofEpochMillis (-62135596800000) with
      | ok t => exact ⟨t, rfl⟩
      | error fault => rw [hok] at hfirst; cases hfirst
    · exact ⟨_, heq.trans (ofSeconds_eq_ok_iff.mpr ⟨by omega, rfl⟩)⟩

/-- Later milliseconds make later timestamps: the noise is far less than a millisecond. -/
theorem wall_lt_of_ofEpochMillis {a b : Int} {s t : Timestamp} (hs : ofEpochMillis a = .ok s)
    (ht : ofEpochMillis b = .ok t) (h : a < b) : s.wall < t.wall := by
  have hs' := wall_of_ofEpochMillis hs
  have ht' := wall_of_ofEpochMillis ht
  omega

end DeviceRelay.Timestamp
