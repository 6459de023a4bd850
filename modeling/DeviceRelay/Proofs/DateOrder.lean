import DeviceRelay.Proofs.CertificateDates

/-!
# The order of dates

The rules of an item compare two numbers of milliseconds, and the item has two timestamps. The conversion in between
rounds twice, to a binary64 value and to a microsecond, and nevertheless keeps the order: what it adds to a date is far
below the millisecond that lies between two of them.

    start     ≤    expiration        milliseconds
      │                │
    notBefore ≤    notAfter          microseconds

* `Timestamp.IsConversion` — what milliseconds become, by the two roundings.
* `Timestamp.before_iff_of_ofEpochMillis`, `Timestamp.notAfter_iff_of_ofEpochMillis` — the order is kept.
* `Keystore.dates_ordered` — the conversion is defined on the calendar, correctly rounded and keeps order.
-/

namespace DeviceRelay

namespace Timestamp

open Binary64

/-- The instant of `s` is before that of `t`; both have to have one. -/
def Before (s t : Timestamp) : Prop :=
  ∃ a ∈ s.offset, ∃ b ∈ t.offset, s.wall - a < t.wall - b

/-- What so many milliseconds become: the microsecond of the calendar that is nearest to a quotient, which is the
binary64 value nearest to a thousandth of them. -/
structure IsConversion (millis : Int) (t : Timestamp) : Prop where
  universal : t.offset = some 0
  first_le : firstMicro ≤ t.wall
  le_last : t.wall ≤ lastMicro
  rounded : ∃ m e, IsNearest (|(millis : ℚ)| / 1000) m e ∧
    IsHalfEven (1000000 * (signOf (millis < 0) * (m * 2 ^ e))) t.wall

variable {v w : Int} {s t : Timestamp}

theorem inCalendar_of_ofEpochMillis (h : ofEpochMillis v = .ok t) : firstMicro ≤ t.wall ∧ t.wall ≤ lastMicro := by
  obtain ⟨m, e, hcanonical, hnearest, -⟩ := exists_nearest_of_ofEpochMillis h
  obtain ⟨seconds, micros, heq, hmicros, -⟩ := exists_ofEpochMillis_eq hnearest
  rw [heq] at h
  obtain ⟨hseconds, rfl⟩ := ofSeconds_eq_ok_iff.mp h
  show -62135596800000000 ≤ seconds * 1000000 + micros ∧ seconds * 1000000 + micros ≤ 253402300799999999
  omega

theorem isHalfEven_signOf {q : ℚ} {k : Int} (h : IsHalfEven q k) (negative : Bool) :
    IsHalfEven (signOf negative * q) (signOf negative * k) := by
  cases negative with
  | false => simpa [signOf] using h
  | true => simpa [signOf] using h.neg

theorem isConversion_of_ofEpochMillis (h : ofEpochMillis v = .ok t) : IsConversion v t := by
  obtain ⟨hfirst, hlast⟩ := inCalendar_of_ofEpochMillis h
  obtain ⟨m, e, hcanonical, hnearest, rfl⟩ := exists_nearest_of_ofEpochMillis h
  have hdivision := isNearest_of_nearest (by decide) hnearest
  have hmicros := isHalfEven_roundHalfEven ((scaled m e).1 * 1000000) (scaled_pos m e)
  have hmillion : (((scaled m e).1 * 1000000 : Nat) : ℚ) / (scaled m e).2 = 1000000 * (m * 2 ^ e) := by
    rw [← scaled_div]
    push_cast
    ring
  rw [natAbs_div_thousand] at hdivision
  rw [hmillion, ← quotientMicros_of_nearest hnearest] at hmicros
  refine ⟨rfl, hfirst, hlast, m, e, hdivision, ?_⟩
  rw [mul_left_comm]
  exact isHalfEven_signOf hmicros _

/-! ### Order -/

theorem before_iff (hs : s.offset = some 0) (ht : t.offset = some 0) : s.Before t ↔ s.wall < t.wall := by
  simp [Before, hs, ht]

theorem notAfter_iff (hs : s.offset = some 0) (ht : t.offset = some 0) : s.NotAfter t ↔ s.wall ≤ t.wall := by
  simp [NotAfter, hs, ht]

section Order

variable (hs : ofEpochMillis v = .ok s) (ht : ofEpochMillis w = .ok t)

include hs ht

theorem before_iff_of_ofEpochMillis : v < w ↔ s.Before t := by
  rw [before_iff (wall_of_ofEpochMillis hs).1 (wall_of_ofEpochMillis ht).1]
  constructor
  · intro hlt
    exact wall_lt_of_ofEpochMillis hs ht hlt
  · intro hwall
    by_contra hle
    rcases eq_or_lt_of_le (not_lt.mp hle) with rfl | hlt
    · obtain rfl := Except.ok.inj (hs.symm.trans ht)
      exact lt_irrefl _ hwall
    · exact lt_asymm hwall (wall_lt_of_ofEpochMillis ht hs hlt)

theorem notAfter_iff_of_ofEpochMillis : v ≤ w ↔ s.NotAfter t := by
  have hs' := (wall_of_ofEpochMillis hs).1
  have ht' := (wall_of_ofEpochMillis ht).1
  rw [notAfter_iff hs' ht', ← not_lt, ← not_lt, before_iff_of_ofEpochMillis ht hs, before_iff ht' hs']

end Order

end Timestamp

namespace Keystore

open Timestamp

theorem dateOf_some {v : Int} {t : Timestamp} (h : ofEpochMillis v = .ok t) : dateOf (some v) = .ok (some t) := by
  rw [dateOf, h]
  rfl

theorem ItemEntry.dates_eq_of_translate {e : ItemEntry} {i : Item} {v w : Int} {s t : Timestamp}
    (hstart : e.startDate = some v) (hexpiration : e.expirationDate = some w) (hs : ofEpochMillis v = .ok s)
    (ht : ofEpochMillis w = .ok t) (h : e.translate = .ok i) : i.notBefore = some s ∧ i.notAfter = some t := by
  obtain ⟨-, h⟩ := check_bind_eq_ok.mp h
  rw [hstart, hexpiration, dateOf_some hs, dateOf_some ht] at h
  obtain rfl := Except.ok.inj h
  exact ⟨rfl, rfl⟩

/-- Exactly the milliseconds of the calendar become a timestamp. It is correctly rounded, and the order of two of them
is that of their milliseconds: the rule of an item about its two numbers says of its two dates what it should. -/
theorem dates_ordered (v w : Int) :
    ((∃ t, ofEpochMillis v = .ok t) ↔ -62135596800000 ≤ v ∧ v ≤ 253402300799999) ∧
      ∀ s t, ofEpochMillis v = .ok s → ofEpochMillis w = .ok t →
        IsConversion v s ∧ (v < w ↔ s.Before t) ∧
          ∀ e : ItemEntry, e.startDate = some v → e.expirationDate = some w →
            (e.endsBeforeStart = false ↔ s.NotAfter t) ∧
              ∀ i, e.translate = .ok i → i.notBefore = some s ∧ i.notAfter = some t := by
  refine ⟨ofEpochMillis_isOk_iff v, ?_⟩
  intro s t hs ht
  refine ⟨isConversion_of_ofEpochMillis hs, before_iff_of_ofEpochMillis hs ht, ?_⟩
  intro e hstart hexpiration
  constructor
  · rw [← notAfter_iff_of_ofEpochMillis hs ht]
    simp [ItemEntry.endsBeforeStart, hstart, hexpiration]
  · intro i hi
    exact ItemEntry.dates_eq_of_translate hstart hexpiration hs ht hi

/-- The first milliseconds of the calendar and the last ones. -/
theorem dates_ordered_ends :
    ∃ s t, ofEpochMillis (-62135596800000) = .ok s ∧ ofEpochMillis 253402300799999 = .ok t ∧
      IsConversion (-62135596800000) s ∧ s.Before t := by
  obtain ⟨hfirst, -⟩ := dates_ordered (-62135596800000) 253402300799999
  obtain ⟨hlast, -⟩ := dates_ordered 253402300799999 (-62135596800000)
  obtain ⟨s, hs⟩ := hfirst.mpr (by decide)
  obtain ⟨t, ht⟩ := hlast.mpr (by decide)
  obtain ⟨hconversion, hbefore, -⟩ := (dates_ordered _ _).2 s t hs ht
  exact ⟨s, t, hs, ht, hconversion, hbefore.mp (by decide)⟩

end Keystore

end DeviceRelay
