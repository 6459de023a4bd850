import DeviceRelay.Proofs.Binary64

/-!
# Correct rounding

`nearest` computes a value from the position of the leading bits. Here it is held against all the values that could
have been taken instead: none is closer to the quotient, and if another one is as close the significand is even.

    competitor                   is compared with
    as coarse as the units       the whole numbers of units, of which it is one
    finer                        the first value of the binade, which lies between it and the quotient

* `IsHalfEven`, `isHalfEven_roundHalfEven` — the whole number nearest to a quotient, and of two the even one.
* `IsHalfEven.unique`, `roundHalfEven_congr` — it is a matter of the quotient alone.
* `IsNearest`, `isNearest_of_nearest` — the representable value nearest to a quotient.
* `IsNearest.lt_binade_iff` — what is rounded to a value below a power of two.
-/

namespace DeviceRelay.Binary64

/-! ### Whole numbers -/

/-- The whole number that a quotient is rounded to: at most a half away, and even at a half. -/
structure IsHalfEven (q : ℚ) (k : Int) : Prop where
  near : |k - q| ≤ 1 / 2
  even : |k - q| = 1 / 2 → k % 2 = 0

/-- Two different whole numbers are at least one apart. -/
theorem one_le_abs_sub_add {q : ℚ} {k k' : Int} (hne : k' ≠ k) : 1 ≤ |k' - q| + |k - q| := by
  have hapart : (1 : ℚ) ≤ |(k' : ℚ) - k| := by
    exact_mod_cast Int.one_le_abs (sub_ne_zero.mpr hne)
  calc 1 ≤ |(k' : ℚ) - k| := hapart
    _ ≤ |k' - q| + |q - k| := abs_sub_le _ _ _
    _ = |k' - q| + |k - q| := by rw [abs_sub_comm q]

namespace IsHalfEven

variable {q : ℚ} {k k' : Int}

theorem unique (h : IsHalfEven q k) (h' : IsHalfEven q k') : k = k' := by
  by_contra hne
  -- both are a half away, and of two neighbours only one is even
  have hapart := one_le_abs_sub_add (q := q) hne
  have hnear := h.near
  have hnear' := h'.near
  have heven := h.even (by linarith)
  have heven' := h'.even (by linarith)
  have hneighbours : |k - k'| < 2 := by
    have hsum := abs_sub_le (k : ℚ) q k'
    rw [abs_sub_comm q] at hsum
    exact_mod_cast (show |(k : ℚ) - k'| < 2 by linarith)
  obtain ⟨hlow, hhigh⟩ := abs_lt.mp hneighbours
  omega

/-- No whole number is closer, and if another one is as close this one is even. -/
theorem closest (h : IsHalfEven q k) (k' : Int) :
    |k - q| ≤ |k' - q| ∧ (|k' - q| = |k - q| → k' ≠ k → k % 2 = 0) := by
  have hnear := h.near
  constructor
  · by_cases hne : k' = k
    · rw [hne]
    · have := one_le_abs_sub_add (q := q) hne
      linarith
  · intro htie hne
    have := one_le_abs_sub_add (q := q) hne
    exact h.even (by linarith)

theorem neg (h : IsHalfEven q k) : IsHalfEven (-q) (-k) := by
  have habs : |((-k : Int) : ℚ) - -q| = |k - q| := by
    rw [Int.cast_neg, neg_sub_neg, abs_sub_comm]
  constructor
  · rw [habs]
    exact h.near
  · rw [habs]
    intro hhalf
    have := h.even hhalf
    omega

theorem add_even (h : IsHalfEven q k) {n : Int} (hn : n % 2 = 0) : IsHalfEven (q + n) (k + n) := by
  have habs : |((k + n : Int) : ℚ) - (q + n)| = |k - q| := by
    rw [Int.cast_add, add_sub_add_right_eq_sub]
  constructor
  · rw [habs]
    exact h.near
  · rw [habs]
    intro hhalf
    have := h.even hhalf
    omega

end IsHalfEven

theorem isHalfEven_roundHalfEven (num : Nat) {den : Nat} (hden : 0 < den) :
    IsHalfEven (num / den) (roundHalfEven num den) := by
  constructor
  · exact abs_roundHalfEven_sub_le num hden
  · intro hhalf
    by_contra hodd
    -- an odd number has an even neighbour at the other side, which is as close and would have been taken
    obtain ⟨k, hk, hneighbour⟩ : ∃ k : Int, |(num : ℚ) / den - k| ≤ 1 / 2 ∧
        (k = roundHalfEven num den + 1 ∨ k = roundHalfEven num den - 1) := by
      rcases (abs_eq (by norm_num)).mp hhalf with habove | hbelow
      · refine ⟨roundHalfEven num den - 1, ?_, .inr rfl⟩
        push_cast at habove ⊢
        rw [abs_le]
        constructor <;> linarith
      · refine ⟨roundHalfEven num den + 1, ?_, .inl rfl⟩
        push_cast at hbelow ⊢
        rw [abs_le]
        constructor <;> linarith
    have htaken := (roundHalfEven_eq_iff_of_even num hden (t := k) (by omega)).mpr hk
    omega

/-- How a quotient is written does not matter. -/
theorem roundHalfEven_congr {num den num' den' : Nat} (hden : 0 < den) (hden' : 0 < den')
    (h : (num : ℚ) / den = num' / den') : roundHalfEven num den = roundHalfEven num' den' := by
  have hleft := isHalfEven_roundHalfEven num hden
  rw [h] at hleft
  exact_mod_cast hleft.unique (isHalfEven_roundHalfEven num' hden')

/-! ### Representable values -/

/-- The representable value that a quotient is rounded to: no other is closer, and if another one is as close the
significand is even. -/
structure IsNearest (q : ℚ) (m : Nat) (e : Int) : Prop where
  canonical : Canonical m e
  near : ∀ m' e', Canonical m' e' → |m * 2 ^ e - q| ≤ |m' * 2 ^ e' - q|
  even : ∀ m' e', Canonical m' e' → |m' * 2 ^ e' - q| = |m * 2 ^ e - q| → (m' : ℚ) * 2 ^ e' ≠ m * 2 ^ e →
    m % 2 = 0

section Units

variable {unit : Int}

/-- A value as coarse as the units is a whole number of them. -/
theorem exists_eq_units (m : Nat) {e : Int} (hcoarse : unit ≤ e) : ∃ k : Int, (m : ℚ) * 2 ^ e = k * 2 ^ unit := by
  obtain ⟨shift, hshift⟩ := Int.eq_ofNat_of_zero_le (sub_nonneg.mpr hcoarse)
  refine ⟨m * 2 ^ shift, ?_⟩
  rw [show e = shift + unit by omega, zpow_add₀ two_ne_zero, zpow_natCast]
  push_cast
  ring

/-- A finer value has 53 bits at most, so that it lies below the first value of the binade. -/
theorem lt_of_finer {m : Nat} {e : Int} (h : Canonical m e) (hfiner : e < unit) :
    (m : ℚ) * 2 ^ e < 2 ^ (52 + unit) := by
  calc (m : ℚ) * 2 ^ e < 2 ^ (53 + e) := lt_binade_of_canonical h
    _ ≤ 2 ^ (52 + unit) := zpow_le_zpow_right₀ one_le_two (by omega)

/-- The rounded number of units is closest among all representable values, not only among those units. -/
theorem closest_of_units {q : ℚ} {whole : Int} (hunit : unit = -1074 ∨ 2 ^ (52 + unit) ≤ q)
    (hround : IsHalfEven (q / 2 ^ unit) whole) {m : Nat} {e : Int} (h : Canonical m e) :
    |whole * 2 ^ unit - q| ≤ |m * 2 ^ e - q| ∧
      (|m * 2 ^ e - q| = |whole * 2 ^ unit - q| → (m : ℚ) * 2 ^ e ≠ whole * 2 ^ unit → whole % 2 = 0) := by
  have hpow : (0 : ℚ) < 2 ^ unit := by positivity
  have hdistance : ∀ k : Int, |k * 2 ^ unit - q| = |k - q / 2 ^ unit| * 2 ^ unit := by
    intro k
    rw [← abs_of_pos hpow, ← abs_mul, abs_of_pos hpow, sub_mul, div_mul_cancel₀ _ hpow.ne']
  rcases le_or_gt unit e with hcoarse | hfiner
  · obtain ⟨k, hk⟩ := exists_eq_units m hcoarse
    obtain ⟨hnear, heven⟩ := hround.closest k
    rw [hk, hdistance, hdistance]
    constructor
    · gcongr
    · intro htie hne
      apply heven (mul_right_cancel₀ hpow.ne' htie)
      rintro rfl
      exact hne rfl
  · -- the least exponent is finer than none
    have hq : (2 : ℚ) ^ (52 + unit) ≤ q := hunit.resolve_left (by have := h.2.2; omega)
    have hbelow := lt_of_finer h hfiner
    have hnear := (hround.closest (2 ^ 52)).1
    have hfirst : ((2 ^ 52 : Int) : ℚ) * 2 ^ unit = 2 ^ (52 + unit) := by
      rw [zpow_add₀ two_ne_zero]
      norm_num
    have hless : |whole * 2 ^ unit - q| < |m * 2 ^ e - q| := by
      calc |whole * 2 ^ unit - q| = |whole - q / 2 ^ unit| * 2 ^ unit := hdistance whole
        _ ≤ |(2 ^ 52 : Int) - q / 2 ^ unit| * 2 ^ unit := by gcongr
        _ = |2 ^ (52 + unit) - q| := by rw [← hdistance, hfirst]
        _ < |m * 2 ^ e - q| := by
          rw [abs_sub_comm, abs_sub_comm _ q, abs_of_nonneg (by linarith), abs_of_nonneg (by linarith)]
          linarith
    exact ⟨hless.le, fun htie _ => absurd htie hless.ne'⟩

end Units

theorem carried_even {whole : Nat} (h : whole % 2 = 0) (e : Int) : (carried whole e).1 % 2 = 0 := by
  unfold carried
  split
  · show 0x10000000000000 % 2 = 0
    decide
  · exact h

/-- A finite nearest value is the one nearest to its quotient. -/
theorem isNearest_of_nearest {negative s : Bool} {num den m : Nat} {e : Int} {h : Canonical m e} (hden : 0 < den)
    (hnearest : nearest negative num den = .finite s m e h) : IsNearest (num / den) m e := by
  obtain ⟨-, -, hunit⟩ := fittingExponent_spec num hden
  rw [nearest_eq] at hnearest
  dsimp only at hnearest
  generalize fittingExponent num den = unit at *
  have hdown : 0 < den * Nat.pow 2 unit.toNat := Nat.mul_pos hden (Nat.pow_pos two_pos)
  have hround := isHalfEven_roundHalfEven (num * Nat.pow 2 (-unit).toNat) hdown
  rw [div_scaled] at hround
  generalize roundHalfEven (num * Nat.pow 2 (-unit).toNat) (den * Nat.pow 2 unit.toNat) = whole at *
  have hvalue := carried_value whole unit
  split at hnearest
  · cases hnearest
    constructor
    · exact h
    · intro m' e' hcanonical
      rw [hvalue]
      exact_mod_cast (closest_of_units hunit hround hcanonical).1
    · intro m' e' hcanonical
      rw [hvalue]
      intro htie hne
      apply carried_even
      have := (closest_of_units hunit hround hcanonical).2 (by exact_mod_cast htie) (by exact_mod_cast hne)
      omega
  · cases hnearest

/-! ### Rounding across a power of two -/

section Binade

variable {m : Nat} {e : Int}

/-- The values below a power of two end one unit before it, with an odd significand. -/
theorem le_of_lt_binade {unit : Int} (hunit : -1074 ≤ unit) (h : Canonical m e)
    (hbelow : (m : ℚ) * 2 ^ e < 2 ^ (53 + unit)) :
    (m : ℚ) * 2 ^ e ≤ 2 ^ (53 + unit) - 2 ^ unit ∧
      ((m : ℚ) * 2 ^ e = 2 ^ (53 + unit) - 2 ^ unit → m % 2 = 1) := by
  have hpow : (0 : ℚ) < 2 ^ unit := by positivity
  have hbinade : (2 : ℚ) ^ (53 + unit) = 2 ^ 53 * 2 ^ unit := by
    rw [zpow_add₀ two_ne_zero]
    norm_num
  have hm : (m : ℚ) + 1 ≤ 2 ^ 53 := by
    exact_mod_cast h.1
  have he : e ≤ unit := by
    by_contra hcoarse
    have hbits : (2 : ℚ) ^ 52 ≤ m := by
      exact_mod_cast (h.2.2.resolve_left (by omega)).1
    have hless : (2 : ℚ) ^ (53 + unit) ≤ m * 2 ^ e := by
      calc (2 : ℚ) ^ (53 + unit) = 2 ^ 52 * 2 ^ (unit + 1) := by
            rw [hbinade, zpow_add_one₀ two_ne_zero]
            ring
        _ ≤ m * 2 ^ e := by
          gcongr
          · exact one_le_two
          · omega
    linarith
  have hfine : (m : ℚ) * 2 ^ e ≤ m * 2 ^ unit := by
    gcongr
    exact one_le_two
  rw [hbinade]
  refine ⟨by nlinarith, fun hlast => ?_⟩
  -- only 53 bits that all are set come so far
  have hall : (2 : ℚ) ^ 53 - 1 ≤ m := by
    refine le_of_mul_le_mul_right ?_ hpow
    linarith
  have : 2 ^ 53 ≤ m + 1 := by
    exact_mod_cast (show (2 : ℚ) ^ 53 ≤ m + 1 by linarith)
  have hbits := h.1
  omega

/-- A quotient is rounded to a value below a power of two exactly if it lies more than half a unit before it. -/
theorem IsNearest.lt_binade_iff {q : ℚ} (h : IsNearest q m e) {unit : Int} (hleast : -1074 ≤ unit)
    (hmost : unit ≤ 970) :
    (m : ℚ) * 2 ^ e < 2 ^ (53 + unit) ↔ q < 2 ^ (53 + unit) - 2 ^ unit / 2 := by
  have hpow : (0 : ℚ) < 2 ^ unit := by positivity
  have hbinade : (2 : ℚ) ^ (53 + unit) = 2 ^ 53 * 2 ^ unit := by
    rw [zpow_add₀ two_ne_zero]
    norm_num
  -- the two values on either side of the place where the rounding changes
  have hfirst := h.near 0x10000000000000 (unit + 1) ⟨by decide, by omega, .inr ⟨le_refl _, by omega⟩⟩
  have heven := h.even 0x10000000000000 (unit + 1) ⟨by decide, by omega, .inr ⟨le_refl _, by omega⟩⟩
  have hlast := h.near 0x1fffffffffffff unit ⟨by decide, by omega, .inr ⟨by decide, hleast⟩⟩
  have htop : ((0x10000000000000 : Nat) : ℚ) * 2 ^ (unit + 1) = 2 ^ (53 + unit) := by
    rw [hbinade, zpow_add_one₀ two_ne_zero]
    norm_num
    ring
  have hbottom : ((0x1fffffffffffff : Nat) : ℚ) * 2 ^ unit = 2 ^ (53 + unit) - 2 ^ unit := by
    rw [hbinade]
    norm_num
    ring
  rw [htop] at hfirst heven
  rw [hbottom] at hlast
  constructor
  · intro hbelow
    obtain ⟨hle, hodd⟩ := le_of_lt_binade hleast h.canonical hbelow
    by_contra hfar
    rw [abs_of_nonpos (by linarith)] at hfirst
    rcases le_or_gt q (2 ^ (53 + unit)) with hq | hq
    · rw [abs_of_nonneg (by linarith)] at hfirst
      -- both are a half away, and the other one is even
      have hvalue : (m : ℚ) * 2 ^ e = 2 ^ (53 + unit) - 2 ^ unit := by linarith
      have htie := heven (by
        rw [abs_of_nonneg (by linarith), abs_of_nonpos (by linarith)]
        linarith) (by linarith)
      have := hodd hvalue
      omega
    · rw [abs_of_nonpos (by linarith)] at hfirst
      linarith
  · intro hq
    by_contra hbeyond
    rw [abs_of_nonneg (by linarith)] at hlast
    rcases le_or_gt q (2 ^ (53 + unit) - 2 ^ unit) with hfar | hfar
    · rw [abs_of_nonneg (by linarith)] at hlast
      linarith
    · rw [abs_of_nonpos (by linarith)] at hlast
      linarith

end Binade

end DeviceRelay.Binary64
