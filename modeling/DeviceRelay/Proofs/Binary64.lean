import DeviceRelay.Binary64
import Mathlib.Algebra.Order.Field.Power
import Mathlib.Data.Rat.Cast.Order
import Mathlib.Tactic.FieldSimp
import Mathlib.Tactic.GCongr
import Mathlib.Tactic.Linarith
import Mathlib.Tactic.Positivity
import Mathlib.Tactic.Ring

/-!
# The nearest binary64 value

`Binary64.nearest` scales a quotient until it has 53 bits in front of its point, rounds it to a whole
number and scales back. How far it goes astray is half a unit of the last bit:

    |nearest q - q| ≤ q / 2 ^ 53 + 1 / 2 ^ 1075

The second summand counts only where the exponent is the least one.

* `roundHalfEven_eq_iff_of_even` — a whole number that is even wins against both of its neighbours.
* `fittingExponent_spec` — the exponent leaves 53 bits, or fewer at the least one.
* `abs_sub_le_of_nearest`, `abs_sub_le_half_unit` — a finite nearest value lies within that slack.
* `value_of_nearest_of_bits` — a quotient of at most 53 bits is not rounded at all.
* `exists_nearest_eq_finite` — a quotient far below the greatest value has a finite nearest value.
-/

namespace DeviceRelay.Binary64

/-! ### Quotients of naturals -/

/-- A power in two halves, of which one is always one. -/
theorem zpow_eq_div (base : Nat) (e : Int) :
    (base : ℚ) ^ e = (Nat.pow base e.toNat : Nat) / (Nat.pow base (-e).toNat : Nat) := by
  rw [Nat.pow_eq, Nat.pow_eq]
  push_cast
  rcases le_total 0 e with h | h
  · obtain ⟨n, rfl⟩ := Int.eq_ofNat_of_zero_le h
    simp
  · obtain ⟨n, hn⟩ := Int.eq_ofNat_of_zero_le (neg_nonneg.mpr h)
    obtain rfl : e = -n := by omega
    simp

theorem two_zpow_eq (e : Int) :
    (2 : ℚ) ^ e = (Nat.pow 2 e.toNat : Nat) / (Nat.pow 2 (-e).toNat : Nat) :=
  zpow_eq_div 2 e

theorem pow_two_ne (n : Nat) : ((Nat.pow 2 n : Nat) : ℚ) ≠ 0 := by
  rw [Nat.pow_eq]
  positivity

theorem scaled_pos (n : Nat) (e : Int) : 0 < (scaled n e).2 := Nat.pow_pos two_pos

/-- A natural that is scaled is worth the natural times the power of two. -/
theorem scaled_div (n : Nat) (e : Int) :
    ((scaled n e).1 : ℚ) / (scaled n e).2 = n * 2 ^ e := by
  rw [two_zpow_eq, scaled]
  push_cast
  ring

/-- A quotient whose parts are scaled apart. -/
theorem div_scaled (num den : Nat) (e : Int) :
    ((num * Nat.pow 2 (-e).toNat : Nat) : ℚ) / (den * Nat.pow 2 e.toNat : Nat) =
      num / den / 2 ^ e := by
  rw [two_zpow_eq, Nat.cast_mul, Nat.cast_mul]
  have h₁ := pow_two_ne e.toNat
  have h₂ := pow_two_ne (-e).toNat
  field_simp

/-- A quotient is its whole part and what the rest adds. -/
theorem div_eq_add_rest (num : Nat) {den : Nat} (hden : 0 < den) :
    (num : ℚ) / den = (num / den : Nat) + (num % den : Nat) / den := by
  have hden' : (0 : ℚ) < den := by exact_mod_cast hden
  have hnum : ((den * (num / den) + num % den : Nat) : ℚ) = num := by rw [Nat.div_add_mod]
  push_cast at hnum
  field_simp
  linarith

/-- The rounded quotient is at most a half away. -/
theorem roundHalfEven_bounds (num : Nat) {den : Nat} (hden : 0 < den) :
    2 * num ≤ (2 * roundHalfEven num den + 1) * den ∧
      2 * roundHalfEven num den * den ≤ 2 * num + den := by
  have hsum := Nat.div_add_mod num den
  have hrest := Nat.mod_lt num hden
  unfold roundHalfEven
  generalize num / den = q at *
  generalize num % den = r at *
  subst hsum
  dsimp only
  split
  · constructor <;> ring_nf <;> omega
  split
  · constructor <;> ring_nf <;> omega
  · obtain heven | hodd := Nat.mod_two_eq_zero_or_one q
    · rw [heven]; constructor <;> ring_nf <;> omega
    · rw [hodd]; constructor <;> ring_nf <;> omega

theorem abs_roundHalfEven_sub_le (num : Nat) {den : Nat} (hden : 0 < den) :
    |(roundHalfEven num den : ℚ) - num / den| ≤ 1 / 2 := by
  obtain ⟨hlow, hhigh⟩ := roundHalfEven_bounds num hden
  have hpos : (0 : ℚ) < den := by exact_mod_cast hden
  have hlow' : (2 : ℚ) * num ≤ (2 * roundHalfEven num den + 1) * den := by exact_mod_cast hlow
  have hhigh' : (2 : ℚ) * roundHalfEven num den * den ≤ 2 * num + den := by exact_mod_cast hhigh
  have hquot : (num : ℚ) / den * den = num := div_mul_cancel₀ _ hpos.ne'
  rw [abs_le]
  constructor
  · apply le_of_mul_le_mul_right _ hpos
    linarith
  · apply le_of_mul_le_mul_right _ hpos
    linarith

theorem roundHalfEven_le {num den bound : Nat} (hden : 0 < den) (h : num ≤ bound * den) :
    roundHalfEven num den ≤ bound := by
  have hhigh := (roundHalfEven_bounds num hden).2
  by_contra hgt
  have hgt' : bound + 1 ≤ roundHalfEven num den := by omega
  nlinarith

theorem le_roundHalfEven {num den bound : Nat} (hden : 0 < den) (h : bound * den ≤ num) :
    bound ≤ roundHalfEven num den := by
  have hlow := (roundHalfEven_bounds num hden).1
  by_contra hlt
  have hlt' : roundHalfEven num den + 1 ≤ bound := by omega
  nlinarith

theorem roundHalfEven_mul (whole : Nat) {den : Nat} (hden : 0 < den) : roundHalfEven (whole * den) den = whole := by
  unfold roundHalfEven
  rw [Nat.mul_mod_left, Nat.mul_div_cancel _ hden]
  dsimp only
  rw [if_pos (by omega)]

/-- A quotient is rounded to an even number exactly if it is at most a half away: of two neighbours that are, the
even one is taken. -/
theorem roundHalfEven_eq_iff_of_even (num : Nat) {den : Nat} (hden : 0 < den) {t : Int} (ht : t % 2 = 0) :
    (roundHalfEven num den : Int) = t ↔ |(num : ℚ) / den - t| ≤ 1 / 2 := by
  constructor
  · rintro rfl
    rw [abs_sub_comm]
    exact abs_roundHalfEven_sub_le num hden
  · intro h
    have hden' : (0 : ℚ) < den := by exact_mod_cast hden
    have hrest : ((num % den : Nat) : ℚ) / den < 1 := by
      rw [div_lt_one hden']
      exact_mod_cast Nat.mod_lt num hden
    have hrest' : (0 : ℚ) ≤ (num % den : Nat) / den := by positivity
    rw [div_eq_add_rest num hden] at h
    obtain ⟨hlow, hhigh⟩ := abs_le.mp h
    unfold roundHalfEven
    generalize num / den = q at *
    generalize num % den = r at *
    have hfrom : (q : Int) < t + 1 := by exact_mod_cast (by linarith : (q : ℚ) < t + 1)
    have hto : t < (q : Int) + 2 := by exact_mod_cast (by linarith : (t : ℚ) < q + 2)
    -- which of the two neighbours it is depends on the rest
    have hdown : t = q → 2 * r ≤ den := by
      rintro rfl
      have hhalf : (r : ℚ) / den ≤ 1 / 2 := by push_cast at hhigh; linarith
      rw [div_le_iff₀ hden'] at hhalf
      exact_mod_cast (by linarith : (2 : ℚ) * r ≤ den)
    have hup : t = q + 1 → den ≤ 2 * r := by
      rintro rfl
      have hhalf : 1 / 2 ≤ (r : ℚ) / den := by push_cast at hlow; linarith
      rw [le_div_iff₀ hden'] at hhalf
      exact_mod_cast (by linarith : (den : ℚ) ≤ 2 * r)
    dsimp only
    split
    · omega
    split
    · omega
    · omega

/-! ### The exponent of a quotient -/

/-- The position of the leading bits tells the quotient up to a factor of four. -/
theorem log2_bounds {num den : Nat} (hnum : 0 < num) (hden : 0 < den) :
    2 ^ ((num.log2 : Int) - den.log2 - 1) ≤ (num : ℚ) / den ∧
      (num : ℚ) / den < 2 ^ ((num.log2 : Int) - den.log2 + 1) := by
  have hpos : (0 : ℚ) < den := by exact_mod_cast hden
  have hnumLow : (2 : ℚ) ^ (num.log2 : Int) ≤ num := by
    exact_mod_cast Nat.log2_self_le hnum.ne'
  have hnumHigh : (num : ℚ) < 2 ^ ((num.log2 : Int) + 1) := by
    exact_mod_cast Nat.lt_log2_self
  have hdenLow : (2 : ℚ) ^ (den.log2 : Int) ≤ den := by
    exact_mod_cast Nat.log2_self_le hden.ne'
  have hdenHigh : (den : ℚ) < 2 ^ ((den.log2 : Int) + 1) := by
    exact_mod_cast Nat.lt_log2_self
  constructor
  · rw [le_div_iff₀ hpos]
    calc (2 : ℚ) ^ ((num.log2 : Int) - den.log2 - 1) * den
        ≤ 2 ^ ((num.log2 : Int) - den.log2 - 1) * 2 ^ ((den.log2 : Int) + 1) := by gcongr
      _ = 2 ^ (num.log2 : Int) := by rw [← zpow_add₀ two_ne_zero]; congr 1; omega
      _ ≤ num := hnumLow
  · rw [div_lt_iff₀ hpos]
    calc (num : ℚ) < 2 ^ ((num.log2 : Int) + 1) := hnumHigh
      _ = 2 ^ ((num.log2 : Int) - den.log2 + 1) * 2 ^ (den.log2 : Int) := by
        rw [← zpow_add₀ two_ne_zero]; congr 1; omega
      _ ≤ 2 ^ ((num.log2 : Int) - den.log2 + 1) * den := by gcongr

/-- Scaled by the fitting exponent, a quotient is below `2 ^ 53`, and at least `2 ^ 52` unless the exponent
is the least one. -/
theorem fittingExponent_spec (num : Nat) {den : Nat} (hden : 0 < den) :
    -1074 ≤ fittingExponent num den ∧
      (num : ℚ) / den < 2 ^ (53 + fittingExponent num den) ∧
      (fittingExponent num den = -1074 ∨
        2 ^ (52 + fittingExponent num den) ≤ (num : ℚ) / den) := by
  rcases Nat.eq_zero_or_pos num with rfl | hnum
  · refine ⟨le_refl _, ?_, Or.inl rfl⟩
    simp only [Nat.cast_zero, zero_div]
    positivity
  obtain ⟨hlow, hhigh⟩ := log2_bounds hnum hden
  unfold fittingExponent
  rw [if_neg hnum.ne']
  generalize hguess : (num.log2 : Int) - den.log2 - 52 = guess
  have hdown : 0 < den * Nat.pow 2 guess.toNat := Nat.mul_pos hden (Nat.pow_pos two_pos)
  -- the first guess is too great by one if it leaves 52 bits only
  have hbits : num * Nat.pow 2 (-guess).toNat / (den * Nat.pow 2 guess.toNat) < 0x10000000000000 ↔
      (num : ℚ) / den < 2 ^ (52 + guess) := by
    rw [Nat.div_lt_iff_lt_mul hdown, zpow_add₀ two_ne_zero, ← div_lt_iff₀ (by positivity),
      ← div_scaled num den guess, div_lt_iff₀ (by exact_mod_cast hdown)]
    norm_num
    norm_cast
  simp only [hbits]
  generalize hfit : (if (num : ℚ) / den < 2 ^ (52 + guess) then guess - 1 else guess) = fit
  have hspec : (num : ℚ) / den < 2 ^ (53 + fit) ∧ 2 ^ (52 + fit) ≤ (num : ℚ) / den := by
    split at hfit
    · next hless =>
      rw [show 53 + fit = 52 + guess by omega,
        show 52 + fit = (num.log2 : Int) - den.log2 - 1 by omega]
      exact ⟨hless, hlow⟩
    · next hmore =>
      rw [show 53 + fit = (num.log2 : Int) - den.log2 + 1 by omega, ← hfit]
      exact ⟨hhigh, not_lt.mp hmore⟩
  rcases le_total (-1074) fit with h | h
  · rw [max_eq_left h]
    exact ⟨h, hspec.1, Or.inr hspec.2⟩
  · rw [max_eq_right h]
    refine ⟨le_refl _, lt_of_lt_of_le hspec.1 ?_, Or.inl rfl⟩
    exact zpow_le_zpow_right₀ one_le_two (by omega)

/-! ### The nearest value -/

/-- How far a value may lie from the quotient that it stands for. -/
def slack (q : ℚ) : ℚ := q / 2 ^ 53 + 2 ^ (-1075 : Int)

theorem slack_le {q bound : ℚ} (h : q ≤ bound) :
    slack q ≤ bound / 2 ^ 53 + 1 / 1000000000 := by
  have hleast : (2 : ℚ) ^ (-1075 : Int) ≤ 2 ^ (-30 : Int) :=
    zpow_le_zpow_right₀ one_le_two (by decide)
  have hthirty : (2 : ℚ) ^ (-30 : Int) ≤ 1 / 1000000000 := by norm_num
  exact add_le_add (by gcongr) (hleast.trans hthirty)

/-- The whole part of a nearest value: half a unit off, at most `2 ^ 53`, and of 53 bits unless the exponent
is the least one. -/
theorem roundHalfEven_fitted (num : Nat) {den : Nat} (hden : 0 < den) :
    let e := fittingExponent num den
    let whole := roundHalfEven (num * Nat.pow 2 (-e).toNat) (den * Nat.pow 2 e.toNat)
    |(whole : ℚ) * 2 ^ e - num / den| ≤ 2 ^ e / 2 ∧ whole ≤ 0x20000000000000 ∧
      (e = -1074 ∨ 0x10000000000000 ≤ whole) := by
  obtain ⟨-, hhigh, hlow⟩ := fittingExponent_spec num hden
  generalize fittingExponent num den = e at *
  have hdown : 0 < den * Nat.pow 2 e.toNat := Nat.mul_pos hden (Nat.pow_pos two_pos)
  have hdown' : (0 : ℚ) < (den * Nat.pow 2 e.toNat : Nat) := by exact_mod_cast hdown
  have hpow : (0 : ℚ) < 2 ^ e := by positivity
  have hquot := div_scaled num den e
  intro e' whole
  refine ⟨?_, ?_, ?_⟩
  · have hround := abs_roundHalfEven_sub_le (num * Nat.pow 2 (-e).toNat) hdown
    rw [hquot] at hround
    calc |(whole : ℚ) * 2 ^ e - num / den| = |(whole : ℚ) - num / den / 2 ^ e| * 2 ^ e := by
          rw [← abs_of_pos hpow, ← abs_mul, abs_of_pos hpow, sub_mul, div_mul_cancel₀ _ hpow.ne']
      _ ≤ 1 / 2 * 2 ^ e := by gcongr
      _ = 2 ^ e / 2 := by ring
  · apply roundHalfEven_le hdown
    rw [zpow_add₀ two_ne_zero, ← div_lt_iff₀ hpow, ← hquot, div_lt_iff₀ hdown'] at hhigh
    norm_num at hhigh
    exact_mod_cast hhigh.le
  · refine hlow.imp_right fun hlow => le_roundHalfEven hdown ?_
    rw [zpow_add₀ two_ne_zero, ← le_div_iff₀ hpow, ← hquot, le_div_iff₀ hdown'] at hlow
    norm_num at hlow
    exact_mod_cast hlow

/-- A whole part of 54 bits moves one bit into the exponent. -/
def carried (whole : Nat) (e : Int) : Nat × Int :=
  if whole = 0x20000000000000 then (0x10000000000000, e + 1) else (whole, e)

theorem carried_value (whole : Nat) (e : Int) :
    ((carried whole e).1 : ℚ) * 2 ^ (carried whole e).2 = whole * 2 ^ e := by
  unfold carried
  split
  · next hwhole =>
    rw [hwhole, zpow_add₀ two_ne_zero]
    push_cast
    ring
  · rfl

theorem nearest_eq (negative : Bool) (num den : Nat) :
    nearest negative num den =
      let e := fittingExponent num den
      let p := carried (roundHalfEven (num * Nat.pow 2 (-e).toNat) (den * Nat.pow 2 e.toNat)) e
      if h : Canonical p.1 p.2 then .finite negative p.1 p.2 h else .infinite negative :=
  rfl

/-- A representable value lies below the end of its binade. -/
theorem lt_binade_of_canonical {m : Nat} {e : Int} (h : Canonical m e) : (m : ℚ) * 2 ^ e < 2 ^ (53 + e) := by
  have hbits : (m : ℚ) < 2 ^ (53 : Int) := by
    norm_num
    exact_mod_cast h.1
  calc (m : ℚ) * 2 ^ e < 2 ^ (53 : Int) * 2 ^ e := by gcongr
    _ = 2 ^ (53 + e) := (zpow_add₀ two_ne_zero _ _).symm

theorem half_le_slack {q : ℚ} (hq : 0 ≤ q) {e : Int} (he : e = -1074 ∨ 2 ^ (52 + e) ≤ q) :
    (2 : ℚ) ^ e / 2 ≤ slack q := by
  unfold slack
  rcases he with rfl | he
  · have hleast : (2 : ℚ) ^ (-1074 : Int) / 2 = 2 ^ (-1075 : Int) := by
      rw [show (-1075 : Int) = -1074 - 1 by rfl, zpow_sub_one₀ two_ne_zero, div_eq_mul_inv]
    rw [hleast]
    exact le_add_of_nonneg_left (by positivity)
  · refine le_trans ?_ (le_add_of_nonneg_right (by positivity))
    rw [le_div_iff₀ (by positivity)]
    calc (2 : ℚ) ^ e / 2 * 2 ^ 53 = 2 ^ (52 : Int) * 2 ^ e := by norm_num; ring
      _ = 2 ^ (52 + e) := by rw [zpow_add₀ two_ne_zero]
      _ ≤ q := he

section Finite

variable {negative s : Bool} {num den m : Nat} {e : Int} {h : Canonical m e}

/-- A finite nearest value has the sign that was asked for, and is the rounded whole part at the fitting exponent. -/
theorem value_of_nearest (hnearest : nearest negative num den = .finite s m e h) :
    let fit := fittingExponent num den
    s = negative ∧ fit ≤ e ∧
      (m : ℚ) * 2 ^ e = roundHalfEven (num * Nat.pow 2 (-fit).toNat) (den * Nat.pow 2 fit.toNat) * 2 ^ fit := by
  rw [nearest_eq] at hnearest
  dsimp only at hnearest ⊢
  split at hnearest
  · cases hnearest
    refine ⟨rfl, ?_, carried_value _ _⟩
    unfold carried
    split <;> dsimp only <;> omega
  · cases hnearest

/-- A finite nearest value has the sign that was asked for and lies within the slack. -/
theorem abs_sub_le_of_nearest (hden : 0 < den) (hnearest : nearest negative num den = .finite s m e h) :
    s = negative ∧ |(m : ℚ) * 2 ^ e - num / den| ≤ slack (num / den) := by
  obtain ⟨herr, -, -⟩ := roundHalfEven_fitted num hden
  obtain ⟨-, -, hexp⟩ := fittingExponent_spec num hden
  obtain ⟨hs, -, hvalue⟩ := value_of_nearest hnearest
  rw [hvalue]
  exact ⟨hs, herr.trans (half_le_slack (by positivity) hexp)⟩

/-- A quotient of so many bits in front of its point has an exponent of so many bits less. -/
theorem fittingExponent_le (hden : 0 < den) {unit : Int} (hunit : -1074 ≤ unit)
    (hq : (num : ℚ) / den < 2 ^ (53 + unit)) : fittingExponent num den ≤ unit := by
  obtain ⟨-, -, hleast | hexp⟩ := fittingExponent_spec num hden
  · omega
  · have := (zpow_lt_zpow_iff_right₀ one_lt_two).mp (lt_of_le_of_lt hexp hq)
    omega

/-- A finite nearest value is half a unit off. -/
theorem abs_sub_le_half_unit (hden : 0 < den) (hnearest : nearest negative num den = .finite s m e h) {unit : Int}
    (hunit : -1074 ≤ unit) (hq : (num : ℚ) / den < 2 ^ (53 + unit)) :
    |(m : ℚ) * 2 ^ e - num / den| ≤ 2 ^ unit / 2 := by
  obtain ⟨herr, -, -⟩ := roundHalfEven_fitted num hden
  obtain ⟨-, -, hvalue⟩ := value_of_nearest hnearest
  rw [hvalue]
  refine herr.trans ?_
  gcongr
  · exact one_le_two
  · exact fittingExponent_le hden hunit hq

/-- A quotient of at most 53 bits is its own nearest value. -/
theorem value_of_nearest_of_bits (hden : 0 < den) (hnearest : nearest negative num den = .finite s m e h)
    {bits places : Nat} (hplaces : places ≤ 1074) (hbits : bits < 2 ^ 53)
    (hq : (num : ℚ) / den = bits / 2 ^ places) : (m : ℚ) * 2 ^ e = num / den := by
  have hfit : fittingExponent num den ≤ -places := by
    refine fittingExponent_le hden (by omega) ?_
    rw [hq, div_lt_iff₀ (by positivity), zpow_add₀ two_ne_zero, zpow_neg, zpow_natCast,
      inv_mul_cancel_right₀ (by positivity)]
    exact_mod_cast hbits
  obtain ⟨-, -, hvalue⟩ := value_of_nearest hnearest
  have hquot := div_scaled num den (fittingExponent num den)
  rw [hvalue]
  generalize fittingExponent num den = fit at *
  have hdown : 0 < den * Nat.pow 2 fit.toNat := Nat.mul_pos hden (Nat.pow_pos two_pos)
  have hdown' : ((den * Nat.pow 2 fit.toNat : Nat) : ℚ) ≠ 0 := by exact_mod_cast hdown.ne'
  have hpow : (0 : ℚ) < 2 ^ fit := by positivity
  -- at its exponent the quotient is a whole number, so that there is nothing to round
  obtain ⟨shift, hshift⟩ := Int.eq_ofNat_of_zero_le (show 0 ≤ -places - fit by omega)
  have hscaled : (num : ℚ) / den = (bits * 2 ^ shift : Nat) * 2 ^ fit := by
    have hone : (2 : ℚ) ^ (shift : Int) * 2 ^ fit = (2 ^ places)⁻¹ := by
      rw [← zpow_add₀ two_ne_zero, ← zpow_natCast, ← zpow_neg]
      congr 1
      omega
    rw [hq, div_eq_mul_inv, ← hone, zpow_natCast]
    push_cast
    ring
  have hwhole : num * Nat.pow 2 (-fit).toNat = bits * 2 ^ shift * (den * Nat.pow 2 fit.toNat) := by
    rw [hscaled, mul_div_cancel_right₀ _ hpow.ne', div_eq_iff hdown'] at hquot
    exact_mod_cast hquot
  rw [hwhole, roundHalfEven_mul _ hdown, hscaled]

end Finite

/-- A quotient far below the greatest value has a finite nearest value. -/
theorem exists_nearest_eq_finite (negative : Bool) (num : Nat) {den : Nat} (hden : 0 < den)
    (hq : (num : ℚ) / den < 2 ^ 200) :
    ∃ m e h, nearest negative num den = .finite negative m e h := by
  obtain ⟨-, hwhole, hbits⟩ := roundHalfEven_fitted num hden
  obtain ⟨hleast, -, hexp⟩ := fittingExponent_spec num hden
  rw [nearest_eq]
  dsimp only at *
  generalize fittingExponent num den = fit at *
  generalize roundHalfEven (num * Nat.pow 2 (-fit).toNat) (den * Nat.pow 2 fit.toNat) = whole at *
  have hmost : fit ≤ 148 := by
    rcases hexp with rfl | hexp
    · omega
    · have hlt : (2 : ℚ) ^ (52 + fit) < 2 ^ (200 : Int) :=
        lt_of_le_of_lt hexp (by exact_mod_cast hq)
      have := (zpow_lt_zpow_iff_right₀ one_lt_two).mp hlt
      omega
  have hcanonical : Canonical (carried whole fit).1 (carried whole fit).2 := by
    unfold Canonical carried
    split <;> dsimp only <;> omega
  exact ⟨_, _, hcanonical, dif_pos hcanonical⟩

end DeviceRelay.Binary64
