import DeviceRelay.Broker.Delay
import DeviceRelay.Proofs.Binary64.Doubling
import DeviceRelay.Proofs.Binary64.Nearest
import DeviceRelay.Proofs.Checked
import DeviceRelay.Proofs.Text.Numeral
import Mathlib.Data.Rat.Floor

/-!
# Delays that are waited out

A delay is doubled, announced and slept through, and there are three places where it may fail: an integer of too many
digits is not announced, a timer does not count too many nanoseconds, and the timer itself may break off.

    base ──Doubles──▶ delay ──Lasts──▶ nanoseconds ──rest──▶ ·
                        │                │                   │
                        ▼ unwritable     ▼ IsBeyond          ▼ a failure of the timer

* `Delay.doubled_eq_ok_iff` — what doubling makes of a number of seconds.
* `Delay.lasts_or_isBeyond`, `Delay.Lasts.nanoseconds_eq` — what the timer is asked for, and when it is not asked.
* `Delay.exists_waited_eq`, `Delay.exists_failsWith` — a delay is waited out, or why not.
-/

namespace DeviceRelay

open Binary64 (Canonical scaled)

namespace Binary64

/-- Rounding away from zero takes the whole number above a finite value without its sign. -/
theorem awayFromZero?_finite (s : Bool) {m : Nat} {e : Int} (h : Canonical m e) :
    (finite s m e h).awayFromZero? = some (if s then -(⌈(m : ℚ) * 2 ^ e⌉₊ : Int) else ⌈(m : ℚ) * 2 ^ e⌉₊) := by
  have hden := scaled_pos m e
  have hceil : ((scaled m e).1 + (scaled m e).2 - 1) / (scaled m e).2 = ⌈(m : ℚ) * 2 ^ e⌉₊ := by
    refine eq_of_forall_ge_iff fun bound => ?_
    rw [Nat.ceil_le, ← scaled_div, div_le_iff₀ (by exact_mod_cast hden), Nat.div_le_iff_le_mul_add_pred hden]
    norm_cast
    rw [Nat.mul_comm]
    omega
  rw [awayFromZero?, ← hceil]

theorem nearest_eq_or (negative : Bool) (num den : Nat) :
    (∃ m e h, nearest negative num den = .finite negative m e h) ∨ nearest negative num den = .infinite negative := by
  rw [nearest_eq]
  dsimp only
  split
  · next h => exact .inl ⟨_, _, h, rfl⟩
  · exact .inr rfl

end Binary64

namespace Broker.Delay

/-- Whether the delay is a number of seconds that is not below zero. -/
def isNonNegative : Delay → Bool
  | .bool _ => true
  | .int n => decide (0 ≤ n)
  | .float (.finite negative m _ _) => !negative || m == 0
  | .float (.infinite negative) => !negative
  | _ => false

/-! ### Doubling -/

/-- What becomes of a number of seconds that is doubled some times. -/
inductive Doubles (times : Nat) : Delay → Delay → Prop
  | truth (b : Bool) : Doubles times (.bool b) (.int (b.toNat * 2 ^ times))
  | whole (n : Int) : Doubles times (.int n) (.int (n * 2 ^ times))
  | number {x y : Binary64} (h : x.Doubles times y) : Doubles times (.float x) (.float y)

theorem natPow_cast (times : Nat) : ((Nat.pow 2 times : Nat) : Int) = 2 ^ times := by
  rw [Nat.pow_eq]
  push_cast
  rfl

theorem doubled_eq_ok_iff {times : Nat} {base grown : Delay} (h : base.isNonNegative = true) :
    doubled times base = .ok grown ↔ base.Doubles times grown := by
  constructor
  · intro hgrown
    cases base with
    | bool b =>
      obtain rfl := Except.ok.inj hgrown
      rw [Nat.cast_mul, natPow_cast]
      exact .truth b
    | int n =>
      obtain rfl := Except.ok.inj hgrown
      rw [natPow_cast]
      exact .whole n
    | float x =>
      obtain rfl := Except.ok.inj hgrown
      exact .number (Binary64.doubles_scaleBy times x)
    | _ => cases h
  · intro hgrown
    cases hgrown with
    | truth b => rw [doubled, Nat.cast_mul, natPow_cast]
    | whole n => rw [doubled, natPow_cast]
    | number hx => rw [doubled, hx.scaleBy_eq]

/-- A number of seconds can double, and is not below zero then either. -/
theorem exists_doubles (times : Nat) {base : Delay} (h : base.isNonNegative = true) :
    ∃ grown, base.Doubles times grown := by
  cases base with
  | bool b => exact ⟨_, .truth b⟩
  | int n => exact ⟨_, .whole n⟩
  | float x => exact ⟨_, .number (Binary64.doubles_scaleBy times x)⟩
  | _ => cases h

theorem Doubles.isNonNegative {times : Nat} {base grown : Delay} (h : base.Doubles times grown)
    (hbase : base.isNonNegative = true) : grown.isNonNegative = true := by
  cases h with
  | truth b =>
    have hn : (0 : Int) ≤ b.toNat * 2 ^ times := Int.mul_nonneg (Int.natCast_nonneg _) (pow_nonneg two_pos.le times)
    exact decide_eq_true hn
  | whole n => exact decide_eq_true (Int.mul_nonneg (of_decide_eq_true hbase) (pow_nonneg two_pos.le times))
  | number hx =>
    cases hx with
    | nan => cases hbase
    | infinite => exact hbase
    | @exact s m m' e e' _ _ hvalue =>
      rw [Delay.isNonNegative, Bool.or_eq_true, beq_iff_eq] at hbase ⊢
      -- zero stays zero
      refine hbase.imp_right fun hm => ?_
      rw [hm, Nat.cast_zero, zero_mul, zero_mul] at hvalue
      have hpow : (2 : ℚ) ^ e' ≠ 0 := by positivity
      exact_mod_cast (mul_eq_zero.mp hvalue).resolve_right hpow
    | @beyond s m e _ hvalue =>
      rw [Delay.isNonNegative, Bool.or_eq_true, beq_iff_eq] at hbase
      refine hbase.resolve_right fun hm => ?_
      have hpos : (0 : ℚ) < 2 ^ (1024 : Int) := by positivity
      rw [hm, Nat.cast_zero, zero_mul, zero_mul] at hvalue
      exact absurd hvalue hpos.not_ge

/-! ### Nanoseconds -/

/-- A delay lasts so many nanoseconds, of which the timer counts fewer than 2 ^ 63. In floating point a part of one
counts as one more, and the last product below 2 ^ 63 is half a unit nearer to the one before. -/
inductive Lasts : Delay → Nat → Prop
  | truth (b : Bool) : Lasts (.bool b) (b.toNat * 10 ^ 9)
  | whole {n : Int} {count : Nat} (h : n * 10 ^ 9 = count) (hfits : count < 2 ^ 63) : Lasts (.int n) count
  | number {s : Bool} {m m' : Nat} {e e' : Int} {h : Canonical m e} {h' : Canonical m' e'}
      (hsign : s = false ∨ m = 0) (hfits : (m : ℚ) * 2 ^ e * 10 ^ 9 < 2 ^ 63 - 512)
      (hproduct : (Binary64.finite s m e h).scaleBy 1000000000 = .finite s m' e' h') :
      Lasts (.float (.finite s m e h)) ⌈(m' : ℚ) * 2 ^ e'⌉₊

/-- A delay lasts longer than the timer counts, which is said in these words. -/
inductive IsBeyond : Delay → String → Prop
  | whole {n : Int} (h : 2 ^ 63 ≤ n * 10 ^ 9) : IsBeyond (.int n) beyondWhole
  | number {m : Nat} {e : Int} {h : Canonical m e} (hlong : 2 ^ 63 - 512 ≤ (m : ℚ) * 2 ^ e * 10 ^ 9) :
      IsBeyond (.float (.finite false m e h)) beyondFloat
  | infinite : IsBeyond (.float (.infinite false)) beyondFloat

theorem timed_of_lt {count : Nat} (h : count < 2 ^ 63) (beyond : String) : timed beyond count = .ok count := by
  rw [timed, timerLimit, if_neg (by omega), if_neg (by omega), Int.toNat_natCast]

theorem timed_of_le {count : Int} (h : 2 ^ 63 ≤ count) (beyond : String) :
    timed beyond count = .error (.unexpected "OverflowError" beyond) := by
  rw [timed, timerLimit, if_pos (by omega)]

section Product

variable {s : Bool} {m : Nat} {e : Int}

/-- The nanoseconds of a finite number of seconds as a product in floating point. -/
theorem scaleBy_billion (h : Canonical m e) :
    (∃ m' e' h', (Binary64.finite s m e h).scaleBy 1000000000 = .finite s m' e' h' ∧
      Binary64.IsNearest (m * 2 ^ e * 10 ^ 9) m' e') ∨
    (Binary64.finite s m e h).scaleBy 1000000000 = .infinite s ∧ 2 ^ 63 - 512 ≤ (m : ℚ) * 2 ^ e * 10 ^ 9 := by
  have hden := Binary64.scaled_pos m e
  have hq : (((scaled m e).1 * 1000000000 : Nat) : ℚ) / (scaled m e).2 = m * 2 ^ e * 10 ^ 9 := by
    rw [← Binary64.scaled_div]
    push_cast
    ring
  have hproduct : (Binary64.finite s m e h).scaleBy 1000000000 =
      .nearest s ((scaled m e).1 * 1000000000) (scaled m e).2 := by
    rw [Binary64.scaleBy, decide_eq_false (by decide), Bool.bne_false]
    rfl
  rw [hproduct]
  rcases Binary64.nearest_eq_or s ((scaled m e).1 * 1000000000) (scaled m e).2 with ⟨m', e', h', hnearest⟩ | hbeyond
  · exact .inl ⟨m', e', h', hnearest, hq ▸ Binary64.isNearest_of_nearest hden hnearest⟩
  · refine .inr ⟨hbeyond, ?_⟩
    by_contra hsmall
    obtain ⟨_, _, _, hfinite⟩ := Binary64.exists_nearest_eq_finite s ((scaled m e).1 * 1000000000) hden (by
      rw [hq]
      linarith)
    cases hbeyond.symm.trans hfinite

/-- The whole number above a product is one that the timer counts, exactly if the product is. -/
theorem ceil_lt_iff (h : Canonical m e) : ⌈(m : ℚ) * 2 ^ e⌉₊ < 2 ^ 63 ↔ (m : ℚ) * 2 ^ e < 2 ^ 63 := by
  constructor
  · intro hceil
    exact lt_of_le_of_lt (Nat.le_ceil _) (by exact_mod_cast hceil)
  · intro hbelow
    have hlast := (Binary64.le_of_lt_binade (show -1074 ≤ (10 : Int) by decide) h (by exact_mod_cast hbelow)).1
    refine lt_of_le_of_lt (Nat.ceil_le.mpr (?_ : _ ≤ ((2 ^ 63 - 2 ^ 10 : Nat) : ℚ))) (by decide)
    norm_num at hlast ⊢
    exact hlast

theorem nearest_lt_iff {q : ℚ} (h : Binary64.IsNearest q m e) :
    ⌈(m : ℚ) * 2 ^ e⌉₊ < 2 ^ 63 ↔ q < 2 ^ 63 - 512 := by
  rw [ceil_lt_iff h.canonical]
  have := h.lt_binade_iff (show -1074 ≤ (10 : Int) by decide) (by decide)
  norm_num at this ⊢
  exact this

theorem eq_zero_of_isNearest_zero (h : Binary64.IsNearest 0 m e) : (m : ℚ) * 2 ^ e = 0 := by
  have hnear := h.near 0 (-1074) (by decide)
  rw [Nat.cast_zero, zero_mul, sub_zero, sub_zero, abs_zero] at hnear
  exact abs_nonpos_iff.mp hnear

end Product

/-- The nanoseconds of a finite number of seconds, not below zero, whose product is finite. -/
theorem nanoseconds_finite {s : Bool} {m m' : Nat} {e e' : Int} {h : Canonical m e} {h' : Canonical m' e'}
    (hsign : s = false ∨ m = 0) (hproduct : (Binary64.finite s m e h).scaleBy 1000000000 = .finite s m' e' h')
    (hnearest : Binary64.IsNearest (m * 2 ^ e * 10 ^ 9) m' e') :
    nanoseconds (.float (.finite s m e h)) = timed beyondFloat ⌈(m' : ℚ) * 2 ^ e'⌉₊ := by
  have haway : ((Binary64.finite s m e h).scaleBy 1000000000).awayFromZero? = some (⌈(m' : ℚ) * 2 ^ e'⌉₊ : Int) := by
    rw [hproduct, Binary64.awayFromZero?_finite]
    rcases hsign with rfl | rfl
    · rfl
    · rw [Nat.cast_zero, zero_mul, zero_mul] at hnearest
      rw [eq_zero_of_isNearest_zero hnearest]
      simp
  rw [nanoseconds, haway]
  intro hnan
  cases hnan

theorem Lasts.nanoseconds_eq {d : Delay} {count : Nat} (h : d.Lasts count) : nanoseconds d = .ok count := by
  cases h with
  | truth b =>
    have hlt : b.toNat * 10 ^ 9 < 2 ^ 63 := lt_of_le_of_lt (Nat.mul_le_mul_right _ b.toNat_le) (by decide)
    exact timed_of_lt hlt beyondWhole
  | whole hcount hfits =>
    rw [nanoseconds, show (1000000000 : Int) = 10 ^ 9 from rfl, hcount]
    exact timed_of_lt hfits beyondWhole
  | number hsign hfits hproduct =>
    rcases scaleBy_billion _ with ⟨m'', e'', h'', hproduct', hnearest⟩ | ⟨hbeyond, -⟩
    · cases hproduct.symm.trans hproduct'
      rw [nanoseconds_finite hsign hproduct hnearest]
      exact timed_of_lt ((nearest_lt_iff hnearest).mpr hfits) beyondFloat
    · cases hproduct.symm.trans hbeyond

/-- A number of seconds that is not below zero lasts so long, or longer than the timer counts. -/
theorem lasts_or_isBeyond {d : Delay} (h : d.isNonNegative = true) :
    (∃ count, d.Lasts count) ∨
      ∃ message, d.IsBeyond message ∧ nanoseconds d = .error (.unexpected "OverflowError" message) := by
  cases d with
  | bool b => exact .inl ⟨_, .truth b⟩
  | int n =>
    have hn : 0 ≤ n := of_decide_eq_true h
    obtain ⟨seconds, rfl⟩ := Int.eq_ofNat_of_zero_le hn
    by_cases hfits : seconds * 10 ^ 9 < 2 ^ 63
    · exact .inl ⟨_, .whole (by push_cast; rfl) hfits⟩
    · have hlong : 2 ^ 63 ≤ (seconds : Int) * 10 ^ 9 := by
        exact_mod_cast Nat.le_of_not_lt hfits
      exact .inr ⟨_, .whole hlong, timed_of_le hlong _⟩
  | float x =>
    cases x with
    | nan => cases h
    | infinite negative =>
      obtain rfl : negative = false := by simpa [isNonNegative] using h
      exact .inr ⟨_, .infinite, rfl⟩
    | finite s m e hcanonical =>
      have hsign : s = false ∨ m = 0 := by simpa [isNonNegative] using h
      by_cases hfits : (m : ℚ) * 2 ^ e * 10 ^ 9 < 2 ^ 63 - 512
      · rcases scaleBy_billion hcanonical with ⟨_, _, _, hproduct, -⟩ | ⟨-, hlong⟩
        · exact .inl ⟨_, .number hsign hfits hproduct⟩
        · exact absurd hfits hlong.not_gt
      · obtain rfl : s = false := hsign.resolve_right fun hm => hfits (by
          rw [hm, Nat.cast_zero, zero_mul, zero_mul]
          norm_num)
        refine .inr ⟨_, .number (not_lt.mp hfits), ?_⟩
        rcases scaleBy_billion hcanonical with ⟨m', e', h', hproduct, hnearest⟩ | ⟨hbeyond, -⟩
        · rw [nanoseconds_finite hsign hproduct hnearest]
          refine timed_of_le ?_ beyondFloat
          exact_mod_cast not_lt.mp ((nearest_lt_iff hnearest).not.mpr hfits)
        · rw [nanoseconds, hbeyond]
          · rfl
          · intro hnan
            cases hnan
  | _ => cases h

/-! ### Waiting -/

/-- The delay that a base has become after it has doubled some times, once it is announced and slept through. -/
def waited (sleep : Delay → Except Failure Unit) (times : Nat) (base : Delay) : Except Failure Delay := do
  let grown ← base.doubled times
  grown.waitOut sleep
  return grown

/-- A base that has doubled some times is slept through: the timer counts its nanoseconds, and waits for them. -/
def CanWait (rest : Nat → Except Failure Unit) (times : Nat) (base : Delay) : Prop :=
  ∃ grown count, base.Doubles times grown ∧ grown.Lasts count ∧ rest count = .ok ()

/-- Why a base that has doubled some times is not slept through. -/
inductive FailsWith (rest : Nat → Except Failure Unit) (times : Nat) (base : Delay) : Failure → Prop
  /-- It is an integer of too many digits, which is not announced. -/
  | unwritable {n : Int} (hdoubles : base.Doubles times (.int n)) (hlong : ¬Text.isWritable n = true) :
    FailsWith rest times base (.unexpected "ValueError" Text.unwritableMessage)
  /-- It is announced, and lasts longer than the timer counts. -/
  | beyond {grown : Delay} {message : String} (hdoubles : base.Doubles times grown)
    (hannounce : grown.announce = .ok ()) (hbeyond : grown.IsBeyond message) :
    FailsWith rest times base (.unexpected "OverflowError" message)
  /-- The timer breaks off. -/
  | broken {grown : Delay} {count : Nat} {failure : Failure} (hdoubles : base.Doubles times grown)
    (hlasts : grown.Lasts count) (hrest : rest count = .error failure) : FailsWith rest times base failure

theorem announce_int (n : Int) :
    announce (.int n) =
      if Text.isWritable n then .ok () else .error (.unexpected "ValueError" Text.unwritableMessage) :=
  rfl

/-- What the timer counts has few digits. -/
theorem Lasts.announce_eq {d : Delay} {count : Nat} (h : d.Lasts count) : d.announce = .ok () := by
  cases h with
  | truth | number => rfl
  | @whole n count hcount hfits =>
    have hfew : n.natAbs < Nat.pow 10 19 := by
      rw [Nat.pow_eq]
      omega
    rw [announce_int, if_pos (Text.isWritable_of_lt_pow hfew (by decide))]

section Waited

variable {rest : Nat → Except Failure Unit} {times : Nat} {base grown : Delay}

theorem waited_of_doubles (sleep : Delay → Except Failure Unit) (hbase : base.isNonNegative = true)
    (h : base.Doubles times grown) : waited sleep times base = (grown.waitOut sleep).map fun _ => grown := by
  rw [waited, (doubled_eq_ok_iff hbase).mpr h]
  rfl

theorem Lasts.waitOut_eq {count : Nat} (h : grown.Lasts count) : grown.waitOut (Delay.sleep rest) = rest count := by
  show (grown.announce.bind fun _ => (grown.nanoseconds).bind rest) = _
  rw [h.announce_eq, h.nanoseconds_eq]
  rfl

theorem exists_waited_eq (hbase : base.isNonNegative = true) (h : base.CanWait rest times) :
    ∃ grown, base.Doubles times grown ∧ waited (Delay.sleep rest) times base = .ok grown := by
  obtain ⟨grown, count, hdoubles, hlasts, hrest⟩ := h
  refine ⟨grown, hdoubles, ?_⟩
  rw [waited_of_doubles _ hbase hdoubles, hlasts.waitOut_eq, hrest]
  rfl

/-- What is announced is an integer of few digits, or none. -/
theorem announce_eq_or (d : Delay) :
    d.announce = .ok () ∨ ∃ n, d = .int n ∧ ¬Text.isWritable n = true ∧
      d.announce = .error (.unexpected "ValueError" Text.unwritableMessage) := by
  cases d with
  | int n =>
    rw [announce_int]
    by_cases hwritable : Text.isWritable n = true
    · exact .inl (if_pos hwritable)
    · exact .inr ⟨n, rfl, hwritable, if_neg hwritable⟩
  | _ => exact .inl rfl

theorem exists_failsWith (hbase : base.isNonNegative = true) (h : ¬base.CanWait rest times) :
    ∃ failure, base.FailsWith rest times failure ∧ waited (Delay.sleep rest) times base = .error failure := by
  obtain ⟨grown, hdoubles⟩ := exists_doubles times hbase
  rw [waited_of_doubles _ hbase hdoubles]
  rcases lasts_or_isBeyond (hdoubles.isNonNegative hbase) with ⟨count, hlasts⟩ | ⟨message, hbeyond, hcount⟩
  · rw [hlasts.waitOut_eq]
    cases hrest : rest count with
    | ok => exact absurd ⟨grown, count, hdoubles, hlasts, hrest⟩ h
    | error failure => exact ⟨failure, .broken hdoubles hlasts hrest, rfl⟩
  · show ∃ failure, _ ∧ Except.map _ (grown.announce.bind fun _ => (grown.nanoseconds).bind rest) = _
    rcases announce_eq_or grown with hannounce | ⟨n, rfl, hlong, hannounce⟩
    · rw [hannounce, hcount]
      exact ⟨_, .beyond hdoubles hannounce hbeyond, rfl⟩
    · rw [hannounce]
      exact ⟨_, .unwritable hdoubles hlong, rfl⟩

/-- Only what can be waited for is waited out. -/
theorem canWait_of_isSome (hbase : base.isNonNegative = true)
    (h : (waited (Delay.sleep rest) times base).toOption.isSome = true) : base.CanWait rest times := by
  by_contra hcannot
  obtain ⟨failure, -, hfailure⟩ := exists_failsWith hbase hcannot
  rw [hfailure] at h
  cases h

end Waited

end Broker.Delay

end DeviceRelay
