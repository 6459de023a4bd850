import DeviceRelay.Proofs.Binary64.Nearest
import DeviceRelay.Proofs.Keystore

/-!
# Dates of certificates

A device gives milliseconds, and a timestamp has a thousand microseconds for each of them. On the way the milliseconds
are divided by a thousand, and of the 53 bits of the quotient those are left for the microseconds that the seconds do
not need:

    seconds     bits behind the point    the quotient is off by
    < 2 ^ 33    20 or more               less than half a microsecond
    < 2 ^ 38    15 to 19                 up to fifteen microseconds

* `Timestamp.IsExact` — the quotient is at most half a microsecond off.
* `Timestamp.quotientMicros_of_nearest` — the rounding to microseconds adds nothing to it.
* `Timestamp.eq_ofMillis_iff` — exactly then the timestamp is the instant of the milliseconds.
* `Keystore.ItemEntry.dates_of_translate` — the dates of an item.
-/

namespace DeviceRelay

namespace Timestamp

open Binary64

/-- The instant of so many milliseconds after 1970. -/
def ofMillis (millis : Int) : Timestamp := utc (1000 * millis)

/-- The binary64 value nearest to the seconds is at most half a microsecond off. -/
def IsExact (millis : Int) : Prop :=
  match (nearest (millis < 0) millis.natAbs 1000).quotient? with
  | some (num, den) => 2 * (1000000 * num - 1000 * millis * den).natAbs ≤ den
  | none => False

instance (millis : Int) : Decidable (IsExact millis) := by
  unfold IsExact
  split <;> infer_instance

section Finite

variable {n : Int} {negative : Bool} {m : Nat} {e : Int} {h : Canonical m e}

theorem isExact_iff (hnearest : nearest (n < 0) n.natAbs 1000 = .finite negative m e h) :
    IsExact n ↔ |1000000 * ((m : ℚ) * 2 ^ e) - 1000 * n.natAbs| ≤ 1 / 2 := by
  obtain ⟨rfl, -⟩ := value_of_nearest hnearest
  have hdown : (0 : ℚ) < (scaled m e).2 := by exact_mod_cast scaled_pos m e
  unfold IsExact
  rw [hnearest, ← scaled_div]
  show 2 * (1000000 * (if decide (n < 0) = true then -((scaled m e).1 : Int) else (scaled m e).1) -
    1000 * n * (scaled m e).2).natAbs ≤ (scaled m e).2 ↔ _
  generalize (scaled m e).1 = num at *
  generalize (scaled m e).2 = den at *
  -- the sign is that of the milliseconds, so that it plays no role
  have hsign : (1000000 * (if decide (n < 0) = true then -(num : Int) else num) - 1000 * n * den).natAbs =
      (1000000 * num - 1000 * n.natAbs * den : Int).natAbs := by
    by_cases hn : n < 0
    · rw [if_pos (decide_eq_true hn), ← Int.natAbs_neg]
      congr 1
      rw [show (n.natAbs : Int) = -n by omega]
      ring
    · rw [if_neg (by simpa using hn), show (n.natAbs : Int) = n by omega]
  rw [hsign]
  generalize n.natAbs = millis
  have hquot : 1000000 * ((num : ℚ) / den) - 1000 * millis =
      ((1000000 * num - 1000 * millis * den : Int) : ℚ) / den := by
    rw [eq_div_iff hdown.ne', sub_mul, mul_assoc, div_mul_cancel₀ _ hdown.ne']
    push_cast
    ring
  rw [hquot, abs_div, abs_of_pos hdown, div_le_iff₀ hdown, ← Int.cast_abs, Int.abs_eq_natAbs]
  generalize (1000000 * num - 1000 * millis * den : Int).natAbs = far
  constructor
  · intro hfar
    have : (2 : ℚ) * far ≤ den := by exact_mod_cast hfar
    push_cast
    linarith
  · intro hfar
    push_cast at hfar
    have : (2 : ℚ) * far ≤ den := by linarith
    exact_mod_cast this

/-- The microseconds are off by what half a unit of the quotient makes, and by what the rounding adds. -/
theorem abs_quotientMicros_sub_lt (hnearest : nearest (n < 0) n.natAbs 1000 = .finite negative m e h) {unit far : Int}
    (hunit : -1074 ≤ unit) (hq : (n.natAbs : ℚ) / (1000 : Nat) < 2 ^ (53 + unit))
    (hfar : 1000000 * ((2 : ℚ) ^ unit / 2) + 501 / 1000 < far) :
    |signOf (n < 0) * (quotientMicros (scaled m e).1 (scaled m e).2 : Int) - 1000 * n| < far := by
  have herr := abs_quotientMicros_sub_thousand_le (abs_sub_le_half_unit (by decide) hnearest hunit hq)
  generalize signOf (n < 0) * (quotientMicros (scaled m e).1 (scaled m e).2 : Int) = wall at *
  have hlt : |((wall - 1000 * n : Int) : ℚ)| < far := by
    push_cast
    exact lt_of_le_of_lt herr hfar
  exact_mod_cast hlt

end Finite

/-- Where few bits are left, the product with a million is exact, so that only the rounding to whole microseconds
remains. -/
theorem fractionMicros_of_bits {num places : Nat} (h : num < 2 ^ places) (hplaces : places ≤ 33) :
    fractionMicros num (2 ^ places) = roundHalfEven (num * 1000000) (2 ^ places) := by
  have hden : 0 < 2 ^ places := by positivity
  have hbits : num * 1000000 < 2 ^ 53 := by
    calc num * 1000000 < 2 ^ places * 2 ^ 20 := Nat.mul_lt_mul'' h (by decide)
      _ = 2 ^ (places + 20) := (Nat.pow_add ..).symm
      _ ≤ 2 ^ 53 := Nat.pow_le_pow_right two_pos (by omega)
  have hsmall : ((num * 1000000 : Nat) : ℚ) / (2 ^ places : Nat) < 2 ^ 200 := by
    calc ((num * 1000000 : Nat) : ℚ) / (2 ^ places : Nat)
      _ ≤ (num * 1000000 : Nat) := div_le_self (by positivity) (by exact_mod_cast hden)
      _ < (2 ^ 53 : Nat) := by exact_mod_cast hbits
      _ ≤ 2 ^ 200 := by norm_num
  obtain ⟨m, e, hcanonical, hnearest⟩ := exists_nearest_eq_finite false (num * 1000000) hden hsmall
  have hvalue := value_of_nearest_of_bits hden hnearest (show places ≤ 1074 by omega) hbits (by push_cast; rfl)
  rw [fractionMicros, hnearest]
  show roundHalfEven (scaled m e).1 (scaled m e).2 = _
  apply roundHalfEven_congr (scaled_pos m e) hden
  rw [scaled_div, hvalue]

/-- The whole seconds add an even number of microseconds, which does not change how the rest is rounded. -/
theorem quotientMicros_of_bits (num : Nat) {places : Nat} (hplaces : places ≤ 33) :
    quotientMicros num (2 ^ places) = roundHalfEven (num * 1000000) (2 ^ places) := by
  have hden : 0 < 2 ^ places := by positivity
  have hrest := isHalfEven_roundHalfEven (num % 2 ^ places * 1000000) hden
  have hsum := hrest.add_even (n := (num / 2 ^ places * 1000000 : Nat)) (by omega)
  have hquot : ((num % 2 ^ places * 1000000 : Nat) : ℚ) / (2 ^ places : Nat) + (num / 2 ^ places * 1000000 : Nat) =
      (num * 1000000 : Nat) / (2 ^ places : Nat) := by
    have hsplit := div_eq_add_rest num hden
    generalize num / 2 ^ places = whole at *
    push_cast at *
    linear_combination (-1000000 : ℚ) * hsplit
  rw [Int.cast_natCast, hquot] at hsum
  rw [quotientMicros, fractionMicros_of_bits (Nat.mod_lt num hden) hplaces, add_comm]
  exact_mod_cast hsum.unique (isHalfEven_roundHalfEven (num * 1000000) hden)

/-! ### The instant of the milliseconds -/

section Milliseconds

variable {n : Int} {t : Timestamp}

/-- A timestamp shows the microseconds of a quotient, which is the nearest to a thousandth of the milliseconds. -/
theorem exists_nearest_of_ofEpochMillis (h : ofEpochMillis n = .ok t) :
    ∃ m e hcanonical, nearest (n < 0) n.natAbs 1000 = .finite (n < 0) m e hcanonical ∧
      t = utc (signOf (n < 0) * quotientMicros (scaled m e).1 (scaled m e).2) := by
  cases hnearest : nearest (n < 0) n.natAbs 1000 with
  | nan => rw [ofEpochMillis, hnearest] at h; cases h
  | infinite negative => rw [ofEpochMillis, hnearest] at h; cases h
  | finite negative m e hcanonical =>
    obtain ⟨seconds, micros, heq, -, hsum⟩ := exists_ofEpochMillis_eq hnearest
    obtain ⟨rfl, -⟩ := value_of_nearest hnearest
    rw [heq] at h
    obtain ⟨-, rfl⟩ := ofSeconds_eq_ok_iff.mp h
    exact ⟨m, e, hcanonical, rfl, by rw [hsum]⟩

/-- Below `2 ^ 33` seconds the quotient has twenty bits behind the point. -/
theorem natAbs_div_thousand_lt (h : n.natAbs < 8589934592000) :
    (n.natAbs : ℚ) / (1000 : Nat) < 2 ^ (53 + -20 : Int) := by
  rw [div_lt_iff₀ (by norm_num)]
  calc (n.natAbs : ℚ) < 8589934592000 := by exact_mod_cast h
    _ = 2 ^ (53 + -20 : Int) * (1000 : Nat) := by norm_num

/-- From 1697 to 2242 the quotient is less than half a microsecond off. -/
theorem isExact_of_near (h : n.natAbs < 8589934592000) : IsExact n := by
  have hq := natAbs_div_thousand_lt h
  obtain ⟨m, e, hcanonical, hnearest⟩ := exists_nearest_eq_finite (n < 0) n.natAbs (show 0 < 1000 by decide)
    (hq.trans (by norm_num))
  have herr := abs_million_sub_le (abs_sub_le_half_unit (by decide) hnearest (by decide) hq)
  rw [isExact_iff hnearest]
  exact herr.trans (by norm_num)

/-- A multiple of an eighth of a second is no more than a few bits. -/
theorem isExact_of_dvd (hn : InCalendar n) (hdvd : 125 ∣ n) : IsExact n := by
  obtain ⟨eighths, rfl⟩ := hdvd
  unfold InCalendar at hn
  have hq : ((125 * eighths).natAbs : ℚ) / (1000 : Nat) = eighths.natAbs / 2 ^ 3 := by
    rw [Int.natAbs_mul]
    push_cast
    ring
  have hbits : eighths.natAbs < 2 ^ 53 := by omega
  have hsmall : ((125 * eighths).natAbs : ℚ) / (1000 : Nat) < 2 ^ 200 := by
    calc ((125 * eighths).natAbs : ℚ) / (1000 : Nat) = eighths.natAbs / 2 ^ 3 := hq
      _ ≤ eighths.natAbs := div_le_self (Nat.cast_nonneg _) (by norm_num)
      _ < (2 ^ 53 : Nat) := by exact_mod_cast hbits
      _ ≤ 2 ^ 200 := by norm_num
  obtain ⟨m, e, hcanonical, hnearest⟩ := exists_nearest_eq_finite (125 * eighths < 0) (125 * eighths).natAbs
    (show 0 < 1000 by decide) hsmall
  have hvalue := value_of_nearest_of_bits (by decide) hnearest (by decide) hbits hq
  have herr := abs_million_sub_le (le_of_eq (abs_eq_zero.mpr (sub_eq_zero.mpr hvalue)))
  rw [isExact_iff hnearest]
  exact herr.trans (by norm_num)

/-- From `2 ^ 33` seconds on there are nineteen at most. -/
theorem le_exponent_of_far (h : ¬n.natAbs < 8589934592000) {negative : Bool} {m : Nat} {e : Int}
    {hcanonical : Canonical m e} (hnearest : nearest (n < 0) n.natAbs 1000 = .finite negative m e hcanonical) :
    -19 ≤ e := by
  obtain ⟨-, hfit, -⟩ := value_of_nearest hnearest
  obtain ⟨-, hhigh, -⟩ := fittingExponent_spec n.natAbs (show 0 < 1000 by decide)
  have hlow : (2 : ℚ) ^ (33 : Int) ≤ (n.natAbs : ℚ) / (1000 : Nat) := by
    rw [le_div_iff₀ (by norm_num)]
    calc (2 : ℚ) ^ (33 : Int) * (1000 : Nat) = (8589934592000 : Nat) := by norm_num
      _ ≤ n.natAbs := by exact_mod_cast not_lt.mp h
  have := (zpow_lt_zpow_iff_right₀ one_lt_two).mp (lt_of_le_of_lt hlow hhigh)
  omega

/-- The microseconds of the milliseconds are an even number, so that the rounding reaches them from half a one off. -/
theorem roundHalfEven_million_iff {m : Nat} {e : Int} :
    (roundHalfEven ((scaled m e).1 * 1000000) (scaled m e).2 : Int) = 1000 * n.natAbs ↔
      |1000000 * ((m : ℚ) * 2 ^ e) - 1000 * n.natAbs| ≤ 1 / 2 := by
  have hmillion : (((scaled m e).1 * 1000000 : Nat) : ℚ) / (scaled m e).2 = 1000000 * (m * 2 ^ e) := by
    rw [← scaled_div]
    push_cast
    ring
  rw [roundHalfEven_eq_iff_of_even _ (scaled_pos m e) (by omega), hmillion, Int.cast_mul, Int.cast_ofNat,
    Int.cast_natCast]

theorem utc_eq_ofMillis_iff {micros : Nat} :
    utc (signOf (n < 0) * micros) = ofMillis n ↔ (micros : Int) = 1000 * n.natAbs := by
  have hutc : utc (signOf (n < 0) * micros) = ofMillis n ↔ signOf (n < 0) * micros = 1000 * n := by
    simp [utc, ofMillis]
  rw [hutc, signOf]
  by_cases hn : n < 0
  · rw [if_pos (decide_eq_true hn)]
    omega
  · rw [if_neg (by simpa using hn)]
    omega

/-- The microseconds are those of the quotient, rounded to the nearest. -/
theorem quotientMicros_of_nearest {negative : Bool} {m : Nat} {e : Int} {hcanonical : Canonical m e}
    (hnearest : nearest (n < 0) n.natAbs 1000 = .finite negative m e hcanonical) :
    quotientMicros (scaled m e).1 (scaled m e).2 = roundHalfEven ((scaled m e).1 * 1000000) (scaled m e).2 := by
  by_cases hnear : n.natAbs < 8589934592000
  · -- half a microsecond of the division, and half a one of the rounding, are less than one
    have hwall := abs_quotientMicros_sub_lt hnearest (by decide) (natAbs_div_thousand_lt hnear)
      (show _ < ((1 : Int) : ℚ) by norm_num)
    have hmicros := utc_eq_ofMillis_iff.mp (congrArg utc (sub_eq_zero.mp (Int.abs_lt_one_iff.mp hwall)))
    have hexact := (isExact_iff hnearest).mp (isExact_of_near hnear)
    have hround := roundHalfEven_million_iff.mpr hexact
    omega
  · -- far away few bits are left
    have hplaces := le_exponent_of_far hnear hnearest
    exact quotientMicros_of_bits (scaled m e).1 (show (-e).toNat ≤ 33 by omega)

/-- A timestamp is the instant of its milliseconds exactly if the quotient is at most half a microsecond off. -/
theorem eq_ofMillis_iff (h : ofEpochMillis n = .ok t) : t = ofMillis n ↔ IsExact n := by
  obtain ⟨m, e, hcanonical, hnearest, rfl⟩ := exists_nearest_of_ofEpochMillis h
  rw [utc_eq_ofMillis_iff, quotientMicros_of_nearest hnearest, roundHalfEven_million_iff,
    isExact_iff hnearest]

/-- The quotient is at most fifteen microseconds off. -/
theorem abs_wall_sub_le (h : ofEpochMillis n = .ok t) : t.offset = some 0 ∧ |t.wall - 1000 * n| ≤ 15 := by
  obtain ⟨hfirst, hlast⟩ := (ofEpochMillis_isOk_iff n).mp ⟨t, h⟩
  obtain ⟨m, e, hcanonical, hnearest, rfl⟩ := exists_nearest_of_ofEpochMillis h
  -- the seconds of the calendar are below `2 ^ 38`
  have hq : (n.natAbs : ℚ) / (1000 : Nat) < 2 ^ (53 + -15 : Int) := by
    rw [div_lt_iff₀ (by norm_num)]
    calc (n.natAbs : ℚ) < (253402300800000 : Nat) := by exact_mod_cast (by omega : n.natAbs < 253402300800000)
      _ ≤ 2 ^ (53 + -15 : Int) * (1000 : Nat) := by norm_num
  have hwall := abs_quotientMicros_sub_lt hnearest (by decide) hq (show _ < ((16 : Int) : ℚ) by norm_num)
  exact ⟨rfl, Int.le_of_lt_add_one hwall⟩

end Milliseconds

end Timestamp

namespace Keystore

/-- What becomes of a date: it stays given or missing and is at most fifteen microseconds off. The instant is exactly
that of the milliseconds if and only if they are exact, as they are from 1697 to 2242, and at each eighth of a
second. -/
structure DateKept (millis : Option Int) (t : Option Timestamp) : Prop where
  given : t.isSome = millis.isSome
  near : ∀ n ∈ millis, ∀ s ∈ t, s.offset = some 0 ∧ |s.wall - 1000 * n| ≤ 15
  exact : t = millis.map Timestamp.ofMillis ↔ ∀ n ∈ millis, Timestamp.IsExact n
  exact_of : ∀ n ∈ millis, n.natAbs < 8589934592000 ∨ 125 ∣ n → Timestamp.IsExact n

theorem dateKept_of_dateOf {millis : Option Int} {t : Option Timestamp} (h : dateOf millis = .ok t) :
    DateKept millis t := by
  cases millis with
  | none =>
    obtain rfl := Except.ok.inj h
    exact ⟨rfl, by simp, by simp, by simp⟩
  | some n =>
    obtain ⟨s, hs, rfl⟩ := map_eq_ok.mp h
    have hs := mapError_eq_ok.mp hs
    have hcalendar := (Timestamp.ofEpochMillis_isOk_iff n).mp ⟨s, hs⟩
    refine ⟨rfl, ?_, ?_, ?_⟩
    · simpa using Timestamp.abs_wall_sub_le hs
    · simpa using Timestamp.eq_ofMillis_iff hs
    · rintro n' ⟨⟩ (hnear | hdvd)
      · exact Timestamp.isExact_of_near hnear
      · exact Timestamp.isExact_of_dvd hcalendar hdvd

theorem ItemEntry.dates_of_translate {e : ItemEntry} {i : Item} (h : e.translate = .ok i) :
    DateKept e.startDate i.notBefore ∧ DateKept e.expirationDate i.notAfter := by
  obtain ⟨-, h⟩ := check_bind_eq_ok.mp h
  obtain ⟨notBefore, hbefore, h⟩ := bind_eq_ok.mp h
  obtain ⟨notAfter, hafter, h⟩ := bind_eq_ok.mp h
  obtain rfl := Except.ok.inj h
  exact ⟨dateKept_of_dateOf hbefore, dateKept_of_dateOf hafter⟩

/-- A certificate from a thousandth of a second in 2242 to a whole second of it. -/
def lateItem : ItemEntry :=
  { servicePid := none, entryAlias := "k", kind := none, size := none, algorithm := none, subject := none
    subjectNames := none, issuer := none, startDate := some 8589934592001, expirationDate := some 8589934593000
    certificate := none, certificateChain := none }

theorem ItemEntry.dates_of_translate_lateItem :
    ∃ i, lateItem.translate = .ok i ∧ i.notBefore ≠ some (Timestamp.ofMillis 8589934592001) ∧
      i.notAfter = some (Timestamp.ofMillis 8589934593000) := by
  obtain ⟨i, hi⟩ : ∃ i, lateItem.translate = .ok i := exists_eq_ok_of_isSome (by decide +kernel)
  obtain ⟨hbefore, hafter⟩ := dates_of_translate hi
  refine ⟨i, hi, fun hexact => ?_, ?_⟩
  · exact absurd (hbefore.exact.mp hexact 8589934592001 rfl) (by decide +kernel)
  · refine hafter.exact.mpr fun n hn => hafter.exact_of n hn (.inr ?_)
    obtain rfl := Option.some.inj hn
    decide

/-- Not every date is the instant of its milliseconds. -/
theorem ItemEntry.not_forall_dates_exact :
    ¬∀ (e : ItemEntry) (i : Item), e.translate = .ok i →
      i.notBefore = e.startDate.map Timestamp.ofMillis ∧ i.notAfter = e.expirationDate.map Timestamp.ofMillis := by
  intro h
  have hwrong : ∀ i, lateItem.translate = .ok i → i.notBefore = some (.utc 8589934592000999) := by
    have hbefore : lateItem.translate.toOption.map Item.notBefore = some (some (.utc 8589934592000999)) := by
      decide +kernel
    intro i hi
    rw [hi] at hbefore
    exact Option.some.inj hbefore
  obtain ⟨i, hi⟩ : ∃ i, lateItem.translate = .ok i := exists_eq_ok_of_isSome (by decide +kernel)
  have hbefore := (hwrong i hi).symm.trans (h lateItem i hi).1
  exact absurd hbefore (by decide)

end Keystore

end DeviceRelay
