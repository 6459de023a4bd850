import DeviceRelay.Proofs.Binary64.Shortest

/-!
# Doubled values

A finite value that is doubled some times is exact: the power of two goes into the exponent, or, where the exponent is
the least one, into the significand. Only what is beyond the greatest value is infinite.

    m · 2 ^ e  ──scaleBy 2 ^ k──▶  m · 2 ^ (e + k)  =  m' · 2 ^ e'      with m' of 53 bits, or e' the least exponent

* `Doubles` — what becomes of a value that is doubled, apart from how it is computed.
* `doubles_scaleBy`, `Doubles.scaleBy_eq` — this is what is computed, and nothing else.
-/

namespace DeviceRelay.Binary64

/-- A natural of at most 53 bits, at an exponent that is not too small, has 53 bits at some exponent, or the least
exponent. -/
theorem exists_normalized {m : Nat} (hm : m < 0x20000000000000) {e : Int} (he : -1074 ≤ e) :
    ∃ (m' : Nat) (e' : Int), (m' : ℚ) * 2 ^ e' = m * 2 ^ e ∧ m' < 0x20000000000000 ∧ -1074 ≤ e' ∧
      (e' = -1074 ∨ 0x10000000000000 ≤ m') := by
  obtain ⟨room, hroom⟩ := Int.eq_ofNat_of_zero_le (show 0 ≤ e + 1074 by omega)
  induction room generalizing m e with
  | zero => exact ⟨m, e, rfl, hm, he, .inl (by omega)⟩
  | succ room ih =>
    by_cases hbits : 0x10000000000000 ≤ m
    · exact ⟨m, e, rfl, hm, he, .inr hbits⟩
    · -- one bit moves from the exponent to the significand
      obtain ⟨m', e', hvalue, hspec⟩ := ih (m := 2 * m) (by omega) (e := e - 1) (by omega) (by omega)
      refine ⟨m', e', hvalue.trans ?_, hspec⟩
      rw [zpow_sub_one₀ two_ne_zero]
      push_cast
      ring

/-- A quotient beyond the greatest value is infinite. -/
theorem nearest_eq_infinite (negative : Bool) {num den : Nat} (hden : 0 < den)
    (h : 2 ^ (1024 : Int) ≤ (num : ℚ) / den) : nearest negative num den = .infinite negative := by
  obtain ⟨-, hhigh, -⟩ := fittingExponent_spec num hden
  have hfit := (zpow_lt_zpow_iff_right₀ one_lt_two).mp (lt_of_le_of_lt h hhigh)
  rw [nearest_eq]
  refine dif_neg fun hcanonical => ?_
  have hexponent := hcanonical.2.1
  unfold carried at hexponent
  split at hexponent <;> dsimp only at hexponent <;> omega

/-- What becomes of a value that is doubled some times. -/
inductive Doubles (times : Nat) : Binary64 → Binary64 → Prop
  /-- A finite value within the range is exact. -/
  | exact {s : Bool} {m m' : Nat} {e e' : Int} {h : Canonical m e} {h' : Canonical m' e'}
      (hvalue : (m' : ℚ) * 2 ^ e' = m * 2 ^ e * 2 ^ times) : Doubles times (.finite s m e h) (.finite s m' e' h')
  /-- A finite value beyond the range is infinite. -/
  | beyond {s : Bool} {m : Nat} {e : Int} {h : Canonical m e}
      (hvalue : (2 : ℚ) ^ (1024 : Int) ≤ m * 2 ^ e * 2 ^ times) : Doubles times (.finite s m e h) (.infinite s)
  | infinite {s : Bool} : Doubles times (.infinite s) (.infinite s)
  | nan : Doubles times .nan .nan

/-- Multiplying by a power of two leaves the sign and multiplies the significand. -/
theorem scaleBy_pow_finite (times : Nat) (s : Bool) {m : Nat} {e : Int} (h : Canonical m e) :
    (finite s m e h).scaleBy (Nat.pow 2 times : Nat) = nearest s ((scaled m e).1 * Nat.pow 2 times) (scaled m e).2 := by
  have hsign : decide (((Nat.pow 2 times : Nat) : Int) < 0) = false := decide_eq_false (by omega)
  rw [scaleBy, hsign, Bool.bne_false]
  rfl

theorem scaleBy_pow_infinite (times : Nat) (s : Bool) :
    (infinite s).scaleBy (Nat.pow 2 times : Nat) = infinite s := by
  have hpos : ((Nat.pow 2 times : Nat) : Int) ≠ 0 := by
    rw [Nat.pow_eq]
    positivity
  have hsign : decide (((Nat.pow 2 times : Nat) : Int) < 0) = false := decide_eq_false (by omega)
  rw [scaleBy, if_neg hpos, hsign, Bool.bne_false]

/-- The quotient whose nearest value this is. -/
theorem scaled_mul_pow_div (times m : Nat) (e : Int) :
    (((scaled m e).1 * Nat.pow 2 times : Nat) : ℚ) / (scaled m e).2 = m * 2 ^ e * 2 ^ times := by
  rw [← scaled_div, Nat.pow_eq]
  push_cast
  ring

theorem doubles_nearest (times : Nat) (s : Bool) {m : Nat} {e : Int} (h : Canonical m e) :
    Doubles times (.finite s m e h) (nearest s ((scaled m e).1 * Nat.pow 2 times) (scaled m e).2) := by
  have hden := scaled_pos m e
  have hq := scaled_mul_pow_div times m e
  obtain ⟨hm, hmost, hexponent⟩ := h
  obtain ⟨m', e', hvalue, hm', hleast, hbits⟩ := exists_normalized hm (e := e + times) (by omega)
  have hvalue' : (m' : ℚ) * 2 ^ e' = m * 2 ^ e * 2 ^ times := by
    rw [hvalue, zpow_add₀ two_ne_zero, zpow_natCast, mul_assoc]
  by_cases hrange : e' ≤ 971
  · have hcanonical : Canonical m' e' := ⟨hm', hrange, hbits.imp_right fun hbits => ⟨hbits, hleast⟩⟩
    rw [nearest_of_canonical hden hcanonical (hq.trans hvalue'.symm)]
    exact .exact hvalue'
  · have hbeyond : (2 : ℚ) ^ (1024 : Int) ≤ m * 2 ^ e * 2 ^ times := by
      have hbits : ((0x10000000000000 : Nat) : ℚ) ≤ m' := by
        exact_mod_cast hbits.resolve_left (by omega)
      calc (2 : ℚ) ^ (1024 : Int) = 2 ^ (52 : Int) * 2 ^ (972 : Int) := zpow_add₀ (two_ne_zero' ℚ) 52 972
        _ = (0x10000000000000 : Nat) * 2 ^ (972 : Int) := by norm_num
        _ ≤ m' * 2 ^ e' := by
          gcongr
          · exact one_le_two
          · omega
        _ = m * 2 ^ e * 2 ^ times := hvalue'
    rw [nearest_eq_infinite s hden (hq ▸ hbeyond)]
    exact .beyond hbeyond

/-- Multiplying by a power of two doubles a value that many times. -/
theorem doubles_scaleBy (times : Nat) (x : Binary64) : Doubles times x (x.scaleBy (Nat.pow 2 times : Nat)) := by
  cases x with
  | nan => exact .nan
  | infinite s =>
    rw [scaleBy_pow_infinite]
    exact .infinite
  | finite s m e h =>
    rw [scaleBy_pow_finite]
    exact doubles_nearest times s h

/-- What becomes of a doubled value is settled by its value. -/
theorem Doubles.scaleBy_eq {times : Nat} {x y : Binary64} (h : Doubles times x y) :
    x.scaleBy (Nat.pow 2 times : Nat) = y := by
  cases h with
  | nan => rfl
  | infinite => exact scaleBy_pow_infinite times _
  | @exact _ m _ e _ _ h' hvalue =>
    rw [scaleBy_pow_finite]
    exact nearest_of_canonical (scaled_pos m e) h' ((scaled_mul_pow_div times m e).trans hvalue.symm) _
  | @beyond _ m e _ hvalue =>
    rw [scaleBy_pow_finite]
    exact nearest_eq_infinite _ (scaled_pos m e) (hvalue.trans_eq (scaled_mul_pow_div times m e).symm)

end DeviceRelay.Binary64
