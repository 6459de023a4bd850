import DeviceRelay.Binary64.Shortest
import DeviceRelay.Proofs.Binary64.Nearest
import Mathlib.Data.Nat.Digits.Defs

/-!
# Decimals that read back

A finite value is written as a decimal, which reads back to the value. Most candidates are tried before they are taken;
what is left to show is that the last resort, the exact decimal, reads back as well, and that trailing zeros may go.
Both follow from the fact that reading depends on what a decimal is worth, and not on how it is written:

    value ──shortest?──▶ digits · 10 ^ exponent ──ofDecimal──▶ value

* `nearest_congr`, `Decimal.read_congr` — quotients and decimals of one worth have one nearest value.
* `nearest_of_canonical`, `Decimal.read_of_canonical` — what is worth a representable value is read as that one.
* `read_of_shortest?` — the decimal of a finite value reads back.
-/

namespace DeviceRelay.Binary64

/-! ### The nearest value of a quotient -/

/-- No two exponents fit one quotient. -/
theorem fittingExponent_unique {num den : Nat} (hden : 0 < den) {e : Int} (hleast : -1074 ≤ e)
    (hhigh : (num : ℚ) / den < 2 ^ (53 + e)) (hlow : e = -1074 ∨ 2 ^ (52 + e) ≤ (num : ℚ) / den) :
    fittingExponent num den = e := by
  obtain ⟨hleast', hhigh', hlow'⟩ := fittingExponent_spec num hden
  generalize fittingExponent num den = fit at *
  -- above the least exponent, the lower bound of one is below the upper bound of the other
  have hle : ∀ a b : Int, -1074 ≤ b → (a = -1074 ∨ 2 ^ (52 + a) ≤ (num : ℚ) / den) →
      (num : ℚ) / den < 2 ^ (53 + b) → a ≤ b := by
    rintro a b hb (rfl | ha) hq
    · exact hb
    · have := (zpow_lt_zpow_iff_right₀ one_lt_two).mp (lt_of_le_of_lt ha hq)
      omega
  exact le_antisymm (hle fit e hleast hlow' hhigh) (hle e fit hleast' hlow hhigh')

/-- Quotients that are worth the same number of units are rounded alike. -/
theorem roundHalfEven_scaled_congr {num den num' den' : Nat} (hden : 0 < den) (hden' : 0 < den') {e : Int}
    (h : (num : ℚ) / den / 2 ^ e = num' / den') :
    roundHalfEven (num * Nat.pow 2 (-e).toNat) (den * Nat.pow 2 e.toNat) = roundHalfEven num' den' := by
  have hdown : 0 < den * Nat.pow 2 e.toNat := Nat.mul_pos hden (Nat.pow_pos two_pos)
  apply roundHalfEven_congr hdown hden'
  rw [div_scaled, h]

/-- How a quotient is written does not matter to its nearest value. -/
theorem nearest_congr {num den num' den' : Nat} (hden : 0 < den) (hden' : 0 < den')
    (h : (num : ℚ) / den = num' / den') (negative : Bool) : nearest negative num den = nearest negative num' den' := by
  have hfit : fittingExponent num den = fittingExponent num' den' := by
    obtain ⟨hleast, hhigh, hlow⟩ := fittingExponent_spec num' hden'
    rw [← h] at hhigh hlow
    exact fittingExponent_unique hden hleast hhigh hlow
  rw [nearest_eq, nearest_eq, hfit]
  dsimp only
  generalize fittingExponent num' den' = e
  have hdown : 0 < den' * Nat.pow 2 e.toNat := Nat.mul_pos hden' (Nat.pow_pos two_pos)
  rw [roundHalfEven_scaled_congr hden hdown (by rw [div_scaled, h])]

/-- A quotient that is a representable value is not rounded. -/
theorem nearest_of_canonical {num den m : Nat} {e : Int} (hden : 0 < den) (h : Canonical m e)
    (hq : (num : ℚ) / den = m * 2 ^ e) (negative : Bool) : nearest negative num den = .finite negative m e h := by
  have hpow : (0 : ℚ) < 2 ^ e := by positivity
  have ⟨hm, _, hexponent⟩ := h
  have hfit : fittingExponent num den = e := by
    refine fittingExponent_unique hden (by omega) ?_ ?_
    · rw [hq]
      exact lt_binade_of_canonical h
    · refine hexponent.imp_right fun hbits => ?_
      rw [hq, zpow_add₀ two_ne_zero]
      gcongr
      norm_num
      exact_mod_cast hbits.1
  have hround : roundHalfEven (num * Nat.pow 2 (-e).toNat) (den * Nat.pow 2 e.toNat) = m := by
    have hunits : (num : ℚ) / den / 2 ^ e = (m * 1 : Nat) / (1 : Nat) := by
      rw [hq, mul_div_cancel_right₀ _ hpow.ne']
      simp
    rw [roundHalfEven_scaled_congr hden one_pos hunits, roundHalfEven_mul m one_pos]
  have hcarried : carried m e = (m, e) := if_neg (by omega)
  rw [nearest_eq]
  dsimp only
  rw [hfit, hround, hcarried]
  exact dif_pos _

/-! ### Decimals -/

namespace Decimal

/-- What a decimal is worth. -/
def value (d : Decimal) : ℚ := d.digits * 10 ^ d.exponent

/-- How many digits a decimal has in front of its point. -/
def size (d : Decimal) : Int := (Nat.toDigits 10 d.digits).length + d.exponent

variable {d d' : Decimal}

theorem value_eq_zero_iff : d.value = 0 ↔ d.digits = 0 := by
  rw [value, mul_eq_zero, or_iff_left (zpow_ne_zero _ (by norm_num)), Nat.cast_eq_zero]

/-- The number of digits is the position of the first one. -/
theorem size_spec (h : d.digits ≠ 0) : (10 : ℚ) ^ (d.size - 1) ≤ d.value ∧ d.value < 10 ^ d.size := by
  have hpos : 0 < (Nat.toDigits 10 d.digits).length := List.length_pos_iff.mpr Nat.toDigits_ne_nil
  have hhigh : d.digits < 10 ^ (Nat.toDigits 10 d.digits).length :=
    (Nat.length_toDigits_le_iff (by decide) hpos).mp le_rfl
  have hlow : 10 ^ ((Nat.toDigits 10 d.digits).length - 1) ≤ d.digits := by
    by_contra hless
    rcases Nat.eq_zero_or_pos ((Nat.toDigits 10 d.digits).length - 1) with hone | hmore
    · rw [hone] at hless
      omega
    · have := (Nat.length_toDigits_le_iff (by decide) hmore).mpr (not_le.mp hless)
      omega
  unfold size value
  generalize (Nat.toDigits 10 d.digits).length = length at *
  obtain ⟨n, rfl⟩ : ∃ n, length = n + 1 := ⟨length - 1, by omega⟩
  constructor
  · rw [show ((n + 1 : Nat) : Int) + d.exponent - 1 = n + d.exponent by omega, zpow_add₀ (by norm_num), zpow_natCast]
    gcongr
    exact_mod_cast hlow
  · rw [zpow_add₀ (by norm_num), zpow_natCast]
    gcongr
    exact_mod_cast hhigh

theorem size_lt_iff (h : d.digits ≠ 0) {n : Int} : n < d.size ↔ 10 ^ n ≤ d.value := by
  obtain ⟨hlow, hhigh⟩ := size_spec h
  constructor
  · intro hn
    exact (zpow_le_zpow_right₀ (by norm_num) (Int.le_sub_one_of_lt hn)).trans hlow
  · intro hn
    exact (zpow_lt_zpow_iff_right₀ (by norm_num)).mp (lt_of_le_of_lt hn hhigh)

/-- Decimals of one worth have as many digits in front of their points. -/
theorem size_congr (hvalue : d.value = d'.value) (h : d.digits ≠ 0) : d.size = d'.size := by
  have h' : d'.digits ≠ 0 := by rwa [Ne, ← value_eq_zero_iff, ← hvalue, value_eq_zero_iff]
  refine eq_of_forall_lt_iff fun n => ?_
  rw [size_lt_iff h, size_lt_iff h', hvalue]

end Decimal

theorem ten_zpow_eq (e : Int) : (10 : ℚ) ^ e = (Nat.pow 10 e.toNat : Nat) / (Nat.pow 10 (-e).toNat : Nat) :=
  zpow_eq_div 10 e

/-- A decimal as a quotient of naturals. -/
theorem Decimal.value_eq_div (d : Decimal) :
    ((d.digits * Nat.pow 10 d.exponent.toNat : Nat) : ℚ) / (Nat.pow 10 (-d.exponent).toNat : Nat) = d.value := by
  rw [value, ten_zpow_eq]
  push_cast
  ring

/-- More zeros behind the digits, and as many places less. -/
theorem Decimal.value_zeros {d : Decimal} {k : Nat} {exponent : Int} (h : d.digits ≠ 0 → exponent + k = d.exponent) :
    (⟨d.digits * 10 ^ k, exponent⟩ : Decimal).value = d.value := by
  by_cases hzero : d.digits = 0
  · simp [value, hzero]
  · rw [value, value, ← h hzero, zpow_add₀ (by norm_num), zpow_natCast]
    push_cast
    ring

/-- The value that a decimal is read as. -/
def Decimal.read (negative : Bool) (d : Decimal) : Binary64 := ofDecimal negative d.digits d.exponent

/-- Decimals of one worth are read as one value. -/
theorem Decimal.read_congr {d d' : Decimal} (h : d.value = d'.value) (negative : Bool) :
    d.read negative = d'.read negative := by
  have hpos : ∀ e : Int, 0 < Nat.pow 10 (-e).toNat := fun e => Nat.pow_pos (by decide)
  unfold read ofDecimal
  by_cases hzero : d.digits = 0
  · have hzero' : d'.digits = 0 := by rwa [← value_eq_zero_iff, ← h, value_eq_zero_iff]
    rw [hzero, hzero']
    simp
  · have hzero' : d'.digits ≠ 0 := by rwa [Ne, ← value_eq_zero_iff, ← h, value_eq_zero_iff]
    have hsize := size_congr h hzero
    unfold size at hsize
    simp only [hzero, hzero', hsize, false_or]
    rw [nearest_congr (hpos _) (hpos _) (d.value_eq_div.trans (h.trans d'.value_eq_div.symm))]

theorem two_zpow_le_ten_zpow : (2 : ℚ) ^ (1074 : Int) ≤ 10 ^ (400 : Int) := by
  calc (2 : ℚ) ^ (1074 : Int) = (2 ^ (3 : Int)) ^ (358 : Int) := by rw [← zpow_mul]; rfl
    _ = 8 ^ (358 : Int) := by norm_num
    _ ≤ 10 ^ (358 : Int) := zpow_le_zpow_left₀ (by decide) (by norm_num) (by norm_num)
    _ ≤ 10 ^ (400 : Int) := zpow_le_zpow_right₀ (by norm_num) (by decide)

/-- Representable values are far from where decimals are no longer computed. -/
theorem size_bounds_of_canonical {m : Nat} {e : Int} (h : Canonical m e) (hm : m ≠ 0) :
    (10 : ℚ) ^ (-400 : Int) ≤ m * 2 ^ e ∧ (m : ℚ) * 2 ^ e < 10 ^ (400 : Int) := by
  have hexponent := h.2
  have hone : (1 : ℚ) ≤ m := by exact_mod_cast Nat.one_le_iff_ne_zero.mpr hm
  constructor
  · calc (10 : ℚ) ^ (-400 : Int) = (10 ^ (400 : Int))⁻¹ := zpow_neg ..
      _ ≤ (2 ^ (1074 : Int))⁻¹ := inv_anti₀ (by positivity) two_zpow_le_ten_zpow
      _ = 1 * 2 ^ (-1074 : Int) := by rw [one_mul, zpow_neg]
      _ ≤ m * 2 ^ e := by
        gcongr
        · exact one_le_two
        · omega
  · calc (m : ℚ) * 2 ^ e < 2 ^ (53 + e) := lt_binade_of_canonical h
      _ ≤ 2 ^ (1074 : Int) := zpow_le_zpow_right₀ one_le_two (by omega)
      _ ≤ 10 ^ (400 : Int) := two_zpow_le_ten_zpow

/-- A decimal that is worth a representable value is read as that one. -/
theorem Decimal.read_of_canonical {d : Decimal} {m : Nat} {e : Int} (h : Canonical m e) (hvalue : d.value = m * 2 ^ e)
    (negative : Bool) : d.read negative = .finite negative m e h := by
  unfold read ofDecimal
  by_cases hzero : d.digits = 0
  · have hm : (m : ℚ) * 2 ^ e = 0 := by rw [← hvalue, value_eq_zero_iff, hzero]
    rw [if_pos (.inl hzero)]
    exact nearest_of_canonical one_pos h (by rw [hm]; simp) negative
  · have hm : m ≠ 0 := by
      rintro rfl
      exact hzero (value_eq_zero_iff.mp (by rw [hvalue]; simp))
    obtain ⟨hlow, hhigh⟩ := size_bounds_of_canonical h hm
    rw [← hvalue, ← size_lt_iff hzero] at hlow
    rw [← hvalue, ← not_le, ← size_lt_iff hzero] at hhigh
    unfold size at hlow hhigh
    rw [if_neg (by omega), if_neg hhigh]
    exact nearest_of_canonical (Nat.pow_pos (by decide)) h (d.value_eq_div.trans hvalue) negative

/-! ### The shortest decimal -/

theorem roundHalfEven_eq_or (num den : Nat) :
    roundHalfEven num den = num / den ∨ roundHalfEven num den = num / den + 1 := by
  unfold roundHalfEven
  dsimp only
  split
  · exact .inl rfl
  split
  · exact .inr rfl
  · omega

/-- A neighbour that is found reads back: of two that do, one is taken. -/
theorem Decimal.read_of_neighbour? {x : Binary64} {negative : Bool} {num den : Nat} {exponent : Int} {d : Decimal}
    (h : neighbour? x negative num den exponent = some d) : d.read negative = x := by
  unfold neighbour? at h
  dsimp only at h
  split at h
  · next hlow hhigh =>
    obtain rfl := Option.some.inj h
    rcases roundHalfEven_eq_or (num * Nat.pow 10 (-exponent).toNat) (den * Nat.pow 10 exponent.toNat) with heq | heq
    · rw [heq]
      exact of_decide_eq_true hlow
    · rw [heq]
      exact of_decide_eq_true hhigh
  · next hlow _ =>
    obtain rfl := Option.some.inj h
    exact of_decide_eq_true hlow
  · next _ hhigh =>
    obtain rfl := Option.some.inj h
    exact of_decide_eq_true hhigh
  · cases h

theorem value_exactDecimal (m : Nat) (e : Int) : (exactDecimal m e).value = m * 2 ^ e := by
  unfold exactDecimal Decimal.value
  rcases le_or_gt 0 e with h | h
  · obtain ⟨n, rfl⟩ := Int.eq_ofNat_of_zero_le h
    rw [if_pos h]
    simp
  · obtain ⟨n, hn⟩ := Int.eq_ofNat_of_zero_le (show 0 ≤ -e by omega)
    obtain rfl : e = -n := by omega
    rw [if_neg (by omega), neg_neg, Int.toNat_natCast, Nat.pow_eq]
    have hten : (10 : ℚ) = 5 * 2 := by norm_num
    push_cast
    rw [hten, mul_zpow, zpow_neg, zpow_natCast, zpow_neg, zpow_natCast]
    field_simp

/-- Zeros that are moved into the exponent change nothing. -/
theorem Decimal.value_trimmed (d : Decimal) : d.trimmed.value = d.value := by
  fun_induction Decimal.trimmed d with
  | case1 d h ih =>
    have hdigits : d.digits = d.digits / 10 * 10 ^ 1 := by omega
    obtain ⟨digits, exponent⟩ := d
    dsimp only at *
    rw [ih, ← value_zeros fun _ => rfl, ← hdigits]
  | case2 d h => rfl

theorem shortest?_finite {s : Bool} {m : Nat} {e : Int} (h : Canonical m e) :
    ∃ d, (finite s m e h).shortest? = some (s, d) := by
  unfold shortest?
  dsimp only
  split
  · exact ⟨_, rfl⟩
  · exact ⟨_, rfl⟩

theorem negative_of_shortest? {s negative : Bool} {m : Nat} {e : Int} {h : Canonical m e} {d : Decimal}
    (hshortest : (finite s m e h).shortest? = some (negative, d)) : s = negative := by
  obtain ⟨d', hd⟩ := shortest?_finite (s := s) h
  exact (Prod.mk.inj (Option.some.inj (hd.symm.trans hshortest))).1

/-- The decimal of a finite value has its sign and reads back. -/
theorem read_of_shortest? {x : Binary64} {negative : Bool} {d : Decimal} (h : x.shortest? = some (negative, d)) :
    d.read negative = x := by
  cases x with
  | nan => cases h
  | infinite => cases h
  | finite s m e hcanonical =>
    unfold shortest? at h
    dsimp only at h
    split at h
    · next hm =>
      obtain ⟨rfl, rfl⟩ := Prod.mk.inj (Option.some.inj h)
      have hvalue : (⟨0, 0⟩ : Decimal).value = m * 2 ^ e := by rw [hm, Decimal.value_eq_zero_iff.mpr rfl]; simp
      exact Decimal.read_of_canonical hcanonical hvalue s
    · obtain ⟨rfl, rfl⟩ := Prod.mk.inj (Option.some.inj h)
      rw [Decimal.read_congr (Decimal.value_trimmed _)]
      generalize hfound : List.findSome? _ _ = found
      cases found with
      | none => exact Decimal.read_of_canonical hcanonical (value_exactDecimal m e) s
      | some d =>
        obtain ⟨n, -, hn⟩ := List.exists_of_findSome?_eq_some hfound
        exact Decimal.read_of_neighbour? hn

theorem exists_shortest?_eq {x : Binary64} (h : x.isFinite = true) :
    ∃ negative d, x.shortest? = some (negative, d) := by
  cases x with
  | finite s m e hcanonical => exact ⟨s, shortest?_finite hcanonical⟩
  | nan | infinite => cases h

end DeviceRelay.Binary64
