import DeviceRelay.Proofs.Json.Digits
import DeviceRelay.Proofs.Timestamp.Dates
import DeviceRelay.Timestamp.Text

/-!
# Timestamps that are written and read again

What a message tells of a time can be read again. Each number has its width, so it is told where it ends; only the
digits of a second may be missing, and what stands behind them is the offset, which begins with no digit.

    Timestamp ──text──▶ YYYY-MM-DD T HH:MM:SS [.ffffff] [Z | ±HH:MM] ──read──▶ Timestamp

The writer goes below minutes if an offset does, and the reader does not.

* `Timestamp.read_text_iff` — the times that come back are those whose offset is one of whole minutes.
-/

namespace DeviceRelay.Timestamp

/-! ### Numbers -/

section Padded

variable {width n : Nat}

theorem toList_padded (width n : Nat) :
    (padded width n).toList =
      List.replicate (width - (Nat.toDigits 10 n).length) '0' ++ Nat.toDigits 10 n := by
  rw [padded, String.toList_ofList]

theorem isDigit_padded : ∀ c ∈ (padded width n).toList, c.isDigit = true := by
  intro c hc
  rw [toList_padded, List.mem_append] at hc
  rcases hc with hc | hc
  · rw [List.eq_of_mem_replicate hc]
    rfl
  · exact Json.isDigit_of_mem_toDigits hc

theorem length_padded (hwidth : 0 < width) (h : n < 10 ^ width) : (padded width n).toList.length = width := by
  have hlength := (Nat.length_toDigits_le_iff (by decide) hwidth).mpr h
  rw [toList_padded, List.length_append, List.length_replicate, Nat.sub_add_cancel hlength]

theorem digitsValue_padded : Binary64.digitsValue (padded width n).toList = n := by
  rw [toList_padded, Json.digitsValue_zeros, Json.digitsValue_toDigits]

/-- A number of its width is read, whatever stands behind it. -/
theorem takeNumber?_padded (hwidth : 0 < width) (h : n < 10 ^ width) (rest : List Char) :
    takeNumber? width ((padded width n).toList ++ rest) = some (n, rest) := by
  have hlength := length_padded hwidth h
  rw [takeNumber?, List.take_left' hlength, List.drop_left' hlength, digitsValue_padded]
  exact if_pos ⟨hlength, List.all_eq_true.mpr isDigit_padded⟩

/-- Six digits of a second are read if no digit stands behind them. -/
theorem takeFraction?_padded (h : n < 10 ^ 6) {rest : List Char} (hrest : ∀ c ∈ rest.head?, c.isDigit = false) :
    takeFraction? ((padded 6 n).toList ++ rest) = some (n, rest) := by
  have hlength := length_padded (by decide) h
  have hdigits : ∀ c ∈ (padded 6 n).toList, c.isDigit = true := isDigit_padded
  obtain ⟨htake, hdrop⟩ := Json.digits_append hdigits hrest
  have hne : (padded 6 n).toList.isEmpty = false := by
    rw [List.isEmpty_eq_false_iff, ← List.length_pos_iff, hlength]
    decide
  rw [takeFraction?, htake, hdrop, hne, hlength, Nat.sub_self, List.replicate_zero, List.append_nil,
    List.take_of_length_le (Nat.le_of_eq hlength)]
  exact congrArg (fun value => some (value, rest)) digitsValue_padded

end Padded

/-! ### Dates and times of day -/

theorem takeMark?_cons {marks : List Char} {c : Char} (h : marks.contains c = true) (rest : List Char) :
    takeMark? marks (c :: rest) = some rest := if_pos h

/-- A date is read, whatever stands behind it. -/
theorem takeDate?_dateText {d : Date} (h : d.isValid = true) (rest : List Char) :
    takeDate? ((dateText d).toList ++ rest) = some (d, rest) := by
  have hvalid := h
  simp only [Date.isValid, Bool.and_eq_true, decide_eq_true_eq] at hvalid
  obtain ⟨⟨⟨⟨⟨hyear₀, hyear₁⟩, -⟩, hmonth₁⟩, -⟩, hday₁⟩ := hvalid
  have hdays : Date.daysIn d.year d.month ≤ 31 := by
    unfold Date.daysIn
    split <;> split <;> omega
  have hyear (rest) := takeNumber?_padded (n := d.year.toNat) (by decide : 0 < 4) (by omega) rest
  have hmonth (rest) := takeNumber?_padded (n := d.month) (by decide : 0 < 2) (by omega) rest
  have hday (rest) := takeNumber?_padded (n := d.day) (by decide : 0 < 2) (by omega) rest
  have hmark (rest : List Char) : takeMark? ['-'] ("-".toList ++ rest) = some rest := rfl
  have hdate : (⟨d.year.toNat, d.month, d.day⟩ : Date) = d := by rw [Int.toNat_of_nonneg hyear₀]
  simp only [takeDate?, dateText, String.toList_append, List.append_assoc, Option.bind_eq_bind, Option.bind_some,
    hyear, hmonth, hday, hmark, hdate, h, if_true]

/-- The offset behind the time of day of a message. -/
def offsetSuffix : Option Int → String
  | none => ""
  | some 0 => "Z"
  | some offset => offsetText offset

theorem text_eq (t : Timestamp) : t.text = t.wallText ++ offsetSuffix t.offset := by
  refine congrArg (t.wallText ++ ·) ?_
  rcases t.offset with _ | ⟨_ | n⟩ | n <;> rfl

/-- An offset does not begin with a digit, nor with what may stand before the digits of a second. -/
theorem head?_offsetSuffix (offset : Option Int) :
    ∀ c ∈ (offsetSuffix offset).toList.head?, c = 'Z' ∨ c = '+' ∨ c = '-' := by
  unfold offsetSuffix
  split
  · nofun
  · rintro c ⟨rfl⟩
    exact .inl rfl
  · next offset _ =>
    unfold offsetText
    dsimp only
    by_cases hsign : offset < 0
    · rw [if_pos hsign]
      simp
    · rw [if_neg hsign]
      simp

/-- The digits of a second, if there are any. -/
def fractionText (micro : Nat) : String := if micro = 0 then "" else "." ++ padded 6 micro

/-- Seconds and the digits behind them are read if an offset stands behind those. -/
theorem takeSeconds?_fractionText {second micro : Nat} (hsecond : second < 60) (hmicro : micro < 1000000)
    {rest : List Char} (hrest : ∀ c ∈ rest.head?, c = 'Z' ∨ c = '+' ∨ c = '-') :
    takeSeconds? (':' :: ((padded 2 second).toList ++ ((fractionText micro).toList ++ rest))) =
      some (second, micro, rest) := by
  have hnumber (rest) := takeNumber?_padded (n := second) (by decide : 0 < 2) (by omega) rest
  rw [takeSeconds?, hnumber]
  by_cases hzero : micro = 0
  · have hmark : takeMark? ['.', ','] rest = none := by
      cases rest with
      | nil => rfl
      | cons c rest => rcases hrest c rfl with rfl | rfl | rfl <;> rfl
    have htext : (fractionText micro).toList = [] := by
      rw [fractionText, if_pos hzero]
      rfl
    rw [htext, List.nil_append, Option.bind_eq_bind, Option.bind_some]
    dsimp only
    rw [hmark, hzero]
  · have hdigit : ∀ c ∈ rest.head?, c.isDigit = false := by
      intro c hc
      rcases hrest c hc with rfl | rfl | rfl <;> rfl
    have htext : (fractionText micro).toList = '.' :: (padded 6 micro).toList := by
      rw [fractionText, if_neg hzero, String.toList_append]
      rfl
    rw [htext, List.cons_append, Option.bind_eq_bind, Option.bind_some]
    dsimp only
    rw [takeMark?_cons (by decide)]
    dsimp only
    rw [takeFraction?_padded (by omega) hdigit, Option.bind_some]

/-! ### Offsets -/

/-- The offset is one of whole minutes. -/
def WholeMinutes (t : Timestamp) : Prop := ∀ offset ∈ t.offset, offset % 60000000 = 0

/-- The offset that is read is one of whole minutes. -/
theorem wholeMinutes_of_readOffset? {cs : List Char} {result : Option Int} (h : readOffset? cs = some result) :
    ∀ offset ∈ result, offset % 60000000 = 0 := by
  unfold readOffset? at h
  split at h
  · obtain rfl := Option.some.inj h
    nofun
  · obtain rfl := Option.some.inj h
    rintro offset ⟨rfl⟩
    rfl
  · obtain rfl := Option.some.inj h
    rintro offset ⟨rfl⟩
    rfl
  · obtain ⟨⟨hours, rest⟩, -, h⟩ := Option.bind_eq_some_iff.mp h
    obtain ⟨⟨minutes, rest⟩, -, h⟩ := Option.bind_eq_some_iff.mp h
    dsimp only at h
    split at h
    · cases h
    split at h
    · obtain rfl := Option.some.inj h
      rintro offset ⟨rfl⟩
      omega
    split at h
    · obtain rfl := Option.some.inj h
      rintro offset ⟨rfl⟩
      omega
    · cases h

/-- Hours and minutes behind a sign are read. -/
theorem readOffset?_signed {hours minutes : Nat} (hhours : hours < 24) (hminutes : minutes < 60) {sign : Char}
    (hsign : sign = '+' ∨ sign = '-') :
    readOffset? (sign :: ((padded 2 hours).toList ++ ':' :: (padded 2 minutes).toList)) =
      some (some (if sign = '+' then ((hours : Int) * 60 + minutes) * 60000000
        else -(((hours : Int) * 60 + minutes) * 60000000))) := by
  have hminute := takeNumber?_padded (n := minutes) (by decide : 0 < 2) (by omega) []
  rw [List.append_nil] at hminute
  rw [readOffset?, takeNumber?_padded (by decide) (by omega), Option.bind_eq_bind, Option.bind_some]
  · dsimp only
    rw [takeMark?_cons (by decide), Option.getD_some, hminute, Option.bind_some]
    dsimp only
    rw [if_neg (by simp; omega)]
    rcases hsign with rfl | rfl <;> simp
  -- what is read is no letter for universal time
  · rintro rfl
    simp at hsign
  · rintro rfl
    simp at hsign

/-- An offset of whole minutes is read if it is less than a day. -/
theorem readOffset?_offsetText {offset : Int} (hminutes : offset % 60000000 = 0) (hday : offset.natAbs < 86400000000) :
    readOffset? (offsetText offset).toList = some (some offset) := by
  have htext : (offsetText offset).toList =
      (if offset < 0 then '-' else '+') :: ((padded 2 (offset.natAbs / 1000000 / 3600)).toList ++
        ':' :: (padded 2 (offset.natAbs / 1000000 / 60 % 60)).toList) := by
    have hwhole : offset.natAbs % 60000000 = 0 := by omega
    unfold offsetText
    by_cases hsign : offset < 0 <;> simp [hsign, hwhole]
  have hhours : offset.natAbs / 1000000 / 3600 < 24 := by omega
  have hminutes' : offset.natAbs / 1000000 / 60 % 60 < 60 := Nat.mod_lt _ (by decide)
  rw [htext]
  by_cases hsign : offset < 0
  · rw [if_pos hsign, readOffset?_signed hhours hminutes' (.inr rfl), if_neg (by decide)]
    exact congrArg (fun offset => some (some offset)) (by omega)
  · rw [if_neg hsign, readOffset?_signed hhours hminutes' (.inl rfl), if_pos rfl]
    exact congrArg (fun offset => some (some offset)) (by omega)

/-! ### Times of the calendar -/

/-- A time of the years 1 to 9999, with an offset of less than a day. -/
structure Lawful (t : Timestamp) : Prop where
  first : firstMicro ≤ t.wall
  last : t.wall ≤ lastMicro
  offset : ∀ offset ∈ t.offset, offset.natAbs < 86400000000

variable {t : Timestamp}

/-- The offset of a message is read if it is one of whole minutes. -/
theorem readOffset?_offsetSuffix (h : t.Lawful) (hminutes : t.WholeMinutes) :
    readOffset? (offsetSuffix t.offset).toList = some t.offset := by
  unfold offsetSuffix
  split
  · next hnone => rw [hnone]; rfl
  · next hzero => rw [hzero]; rfl
  · next offset _ hoffset =>
    rw [hoffset]
    exact readOffset?_offsetText (hminutes offset hoffset) (h.offset offset hoffset)

theorem timeOfDay_lt (t : Timestamp) : t.timeOfDay < 86400000000 := by
  unfold timeOfDay dayMicros
  rw [Int.fmod_eq_emod_of_nonneg _ (by decide)]
  omega

/-- The parts that a message tells make up the time. -/
theorem ofParts_eq (t : Timestamp) :
    ofParts t.date (t.timeOfDay / 1000000 / 3600) (t.timeOfDay / 1000000 / 60 % 60) (t.timeOfDay / 1000000 % 60)
      (t.timeOfDay % 1000000) t.offset = t := by
  have hday : (t.timeOfDay : Int) = t.wall - t.wall / dayMicros * dayMicros := by
    unfold timeOfDay dayMicros
    rw [Int.fmod_eq_emod_of_nonneg _ (by decide)]
    omega
  have hwall : t.date.days * dayMicros +
      (((t.timeOfDay / 1000000 / 3600 * 60 + t.timeOfDay / 1000000 / 60 % 60) * 60 +
        t.timeOfDay / 1000000 % 60 : Nat) : Int) * 1000000 + (t.timeOfDay % 1000000 : Nat) = t.wall := by
    rw [date, Date.days_ofDays, Int.fdiv_eq_ediv_of_nonneg _ (by decide)]
    generalize t.timeOfDay = micros at *
    omega
  rw [ofParts, hwall]

/-- A day of the calendar has a date. -/
theorem isValid_date (h : t.Lawful) : t.date.isValid = true := by
  have hfirst := h.first
  have hlast := h.last
  unfold firstMicro at hfirst
  unfold lastMicro at hlast
  rw [date, dayMicros, Int.fdiv_eq_ediv_of_nonneg _ (by decide)]
  exact Date.isValid_ofDays (by omega) (by omega)

theorem readTime?_clockText {rest : List Char} {offset : Option Int}
    (hoffset : readOffset? rest = some offset) (hrest : ∀ c ∈ rest.head?, c = 'Z' ∨ c = '+' ∨ c = '-') (date : Date) :
    readTime? date (t.clockText.toList ++ rest) =
      some (ofParts date (t.timeOfDay / 1000000 / 3600) (t.timeOfDay / 1000000 / 60 % 60)
        (t.timeOfDay / 1000000 % 60) (t.timeOfDay % 1000000) offset) := by
  have hlt := t.timeOfDay_lt
  have htext : t.clockText.toList ++ rest =
      (padded 2 (t.timeOfDay / 1000000 / 3600)).toList ++ (':' :: ((padded 2 (t.timeOfDay / 1000000 / 60 % 60)).toList ++
        (':' :: ((padded 2 (t.timeOfDay / 1000000 % 60)).toList ++
          ((fractionText (t.timeOfDay % 1000000)).toList ++ rest))))) := by
    simp [clockText, fractionText]
  have hhour : t.timeOfDay / 1000000 / 3600 < 24 := by omega
  have hminute : t.timeOfDay / 1000000 / 60 % 60 < 60 := Nat.mod_lt _ (by decide)
  have hsecond : t.timeOfDay / 1000000 % 60 < 60 := Nat.mod_lt _ (by decide)
  have hreadHour (rest) := takeNumber?_padded (by decide : 0 < 2) (Nat.lt_trans hhour (by decide)) rest
  have hreadMinute (rest) := takeNumber?_padded (by decide : 0 < 2) (Nat.lt_trans hminute (by decide)) rest
  have hmark (rest : List Char) : takeMark? [':'] (':' :: rest) = some rest := rfl
  have hreadSeconds := takeSeconds?_fractionText hsecond (Nat.mod_lt t.timeOfDay (by decide)) hrest
  simp only [htext, readTime?, Option.bind_eq_bind, Option.bind_some, hreadHour, hreadMinute, hmark, hreadSeconds,
    hoffset]
  exact if_neg (by omega)

/-- What a message tells of a time is read. -/
theorem readCalendar?_text (h : t.Lawful) (hminutes : t.WholeMinutes) :
    readCalendar? t.text.toList = some t := by
  have htext : t.text.toList =
      (dateText t.date).toList ++ ('T' :: (t.clockText.toList ++ (offsetSuffix t.offset).toList)) := by
    simp [text_eq, wallText]
  have htime := readTime?_clockText (t := t) (readOffset?_offsetSuffix h hminutes) (head?_offsetSuffix t.offset) t.date
  rw [ofParts_eq] at htime
  have hmark (rest : List Char) : takeMark? ['T', 't', ' ', '_'] ('T' :: rest) = some rest := rfl
  simp only [htext, readCalendar?, takeDate?_dateText (isValid_date h), Option.bind_eq_bind, Option.bind_some, hmark,
    htime]

/-! ### Offsets that are read -/

theorem wholeMinutes_of_readTime? {date : Date} {cs : List Char} (h : readTime? date cs = some t) :
    t.WholeMinutes := by
  obtain ⟨⟨hour, cs⟩, -, h⟩ := Option.bind_eq_some_iff.mp h
  obtain ⟨cs, -, h⟩ := Option.bind_eq_some_iff.mp h
  obtain ⟨⟨minute, cs⟩, -, h⟩ := Option.bind_eq_some_iff.mp h
  obtain ⟨⟨second, micro, cs⟩, -, h⟩ := Option.bind_eq_some_iff.mp h
  obtain ⟨offset, hoffset, h⟩ := Option.bind_eq_some_iff.mp h
  split at h
  · cases h
  · obtain rfl := Option.some.inj h
    exact wholeMinutes_of_readOffset? hoffset

theorem wholeMinutes_of_readCalendar? {cs : List Char} (h : readCalendar? cs = some t) : t.WholeMinutes := by
  obtain ⟨⟨date, cs⟩, -, h⟩ := Option.bind_eq_some_iff.mp h
  dsimp only at h
  split at h
  · obtain rfl := Option.some.inj h
    nofun
  · obtain ⟨cs, -, h⟩ := Option.bind_eq_some_iff.mp h
    exact wholeMinutes_of_readTime? h

theorem wholeMinutes_of_ofMicros {micros : Int} (h : ofMicros micros = .ok t) : t.WholeMinutes := by
  unfold ofMicros at h
  split at h
  · cases h
  split at h
  · cases h
  · obtain rfl := Except.ok.inj h
    rintro offset ⟨rfl⟩
    rfl

theorem wholeMinutes_of_ofFloat {x : Binary64} (h : ofFloat x = .ok t) : t.WholeMinutes := by
  unfold ofFloat at h
  split at h
  · cases h
  · exact wholeMinutes_of_ofMicros h

theorem wholeMinutes_of_readNumber? {cs : List Char} (h : readNumber? cs = some (.ok t)) : t.WholeMinutes := by
  unfold readNumber? at h
  dsimp only at h
  split at h
  · obtain ⟨x, -, hx⟩ := Option.map_eq_some_iff.mp h
    exact wholeMinutes_of_ofFloat hx
  split at h
  · cases h
  · exact wholeMinutes_of_ofMicros (Option.some.inj h)

/-- What is read has an offset of whole minutes: a text has no finer one, and a number counts universal time. -/
theorem wholeMinutes_of_read {s : String} (h : read s = .ok t) : t.WholeMinutes := by
  unfold read at h
  split at h
  · next t' hcalendar =>
    split at h
    · cases h
    · obtain rfl := Except.ok.inj h
      exact wholeMinutes_of_readCalendar? hcalendar
  · split at h
    · cases h
    · cases h
    · next result _ hresult =>
      subst h
      exact wholeMinutes_of_readNumber? hresult

/-- A time comes back from what a message tells of it exactly if its offset is one of whole minutes. -/
theorem read_text_iff (h : t.Lawful) : read t.text = .ok t ↔ t.WholeMinutes := by
  refine ⟨wholeMinutes_of_read, fun hminutes => ?_⟩
  rw [read, readCalendar?_text h hminutes]
  exact if_neg (Int.not_lt.mpr h.first)

end DeviceRelay.Timestamp
