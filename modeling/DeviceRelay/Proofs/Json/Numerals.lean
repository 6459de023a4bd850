import DeviceRelay.Proofs.Binary64.Shortest
import DeviceRelay.Proofs.Json.Reading

/-!
# Floating-point numbers that read back

A finite value is written with a point or with a power of ten, so that it is told from an integer. What is written has
up to three parts, each of which the reader takes off where it ends:

    whole [. fraction] [e sign power]  ──number?──▶  the value nearest to its decimal

* `Numeral` — the three parts, and the decimal that they make.
* `number?_chars` — the reader takes all of a numeral, and reads its decimal.
* `exists_writes` — what is written for a decimal is a numeral of the same worth.
* `ofWord_text` — a finite value is read from its text, which has few digits in front of the point.
-/

namespace DeviceRelay.Json

open Token Binary64

/-! ### Numerals -/

/-- The digits in front of the point, those behind it, and the digits of a power of ten with its sign. -/
structure Numeral where
  whole : List Char
  fraction : List Char
  power : Option (Bool × List Char)

/-- Digits behind a point, if there are any. -/
def Numeral.pointed : List Char → List Char
  | [] => []
  | digits => '.' :: digits

/-- The exponent of a power of ten. -/
def Numeral.exponentOf (power : Bool × List Char) : Int :=
  if power.1 then -(digitsValue power.2 : Int) else digitsValue power.2

/-- A power of ten, if there is one. -/
def Numeral.powered : Option (Bool × List Char) → List Char
  | none => []
  | some (negative, digits) => 'e' :: (if negative then '-' else '+') :: digits

namespace Numeral

/-- The characters of a numeral. -/
def chars (n : Numeral) : List Char := n.whole ++ (pointed n.fraction ++ powered n.power)

/-- The decimal that the parts make. -/
def decimal (n : Numeral) : Decimal :=
  ⟨digitsValue (n.whole ++ n.fraction), (n.power.map exponentOf).getD 0 - n.fraction.length⟩

/-- The parts are digits, a zero in front is alone, and there is a point or a power. -/
structure Lawful (n : Numeral) : Prop where
  whole_digits : ∀ c ∈ n.whole, c.isDigit = true
  whole_ne : n.whole ≠ []
  whole_zero : n.whole.head? = some '0' → n.whole = ['0']
  fraction_digits : ∀ c ∈ n.fraction, c.isDigit = true
  power_digits : ∀ p ∈ n.power, p.2 ≠ [] ∧ ∀ c ∈ p.2, c.isDigit = true
  not_integer : n.fraction ≠ [] ∨ n.power ≠ none

/-! ### Reading a numeral -/

section Reading

variable {fraction : List Char} {power : Option (Bool × List Char)}

theorem head?_powered : ∀ c ∈ (powered power).head?, c = 'e' := by
  cases power with
  | none => nofun
  | some p =>
    rintro c hc
    exact (Option.some.inj hc).symm

theorem head?_pointed_append : ∀ c ∈ (pointed fraction ++ powered power).head?, c.isDigit = false := by
  intro c hc
  cases fraction with
  | nil =>
    rw [head?_powered c hc]
    decide
  | cons d rest =>
    obtain rfl := Option.some.inj hc
    decide

theorem cutFraction_pointed (hdigits : ∀ c ∈ fraction, c.isDigit = true) :
    cutFraction (pointed fraction ++ powered power) = (fraction, powered power) := by
  cases fraction with
  | nil =>
    unfold cutFraction
    split
    · next rest hrest =>
      have hpoint := head?_powered '.' (by rw [show powered power = _ from hrest]; rfl)
      exact absurd hpoint (by decide)
    · rfl
  | cons d rest =>
    have hrest : ∀ c ∈ (powered power).head?, c.isDigit = false := @head?_pointed_append [] power
    obtain ⟨htake, hdrop⟩ := digits_append hdigits hrest
    show cutFraction ('.' :: (d :: rest ++ powered power)) = _
    rw [cutFraction, htake, hdrop]
    rfl

theorem cutExponent_powered (hdigits : ∀ p ∈ power, p.2 ≠ [] ∧ ∀ c ∈ p.2, c.isDigit = true) :
    cutExponent (powered power) = (power.map exponentOf, []) := by
  cases power with
  | none => rfl
  | some p =>
    obtain ⟨negative, digits⟩ := p
    obtain ⟨hne, hall⟩ := hdigits _ rfl
    obtain ⟨htake, hdrop⟩ := digits_append hall fun _ (hc : _ ∈ [].head?) => nomatch hc
    have hsign : Binary64.takeSign ((if negative then '-' else '+') :: digits) = (negative, digits) := by
      cases negative <;> rfl
    rw [List.append_nil] at htake hdrop
    rw [powered, cutExponent, hsign]
    simp only [htake, hdrop, List.isEmpty_eq_false_iff.mpr hne]
    rfl

/-- The parts are not those of an integer. -/
theorem Lawful.is_float {n : Numeral} (h : n.Lawful) :
    (n.fraction.isEmpty && (n.power.map exponentOf).isNone) = false := by
  rcases h.not_integer with hfraction | hpower
  · rw [List.isEmpty_eq_false_iff.mpr hfraction, Bool.false_and]
  · obtain ⟨p, hp⟩ := Option.ne_none_iff_exists'.mp hpower
    rw [hp, Option.map_some, Option.isNone_some, Bool.and_false]

theorem Lawful.head?_chars {n : Numeral} (h : n.Lawful) : ∀ c ∈ n.chars.head?, c.isDigit = true := by
  intro c hc
  obtain ⟨d, rest, hcs⟩ := List.exists_cons_of_ne_nil h.whole_ne
  rw [chars, hcs] at hc
  obtain rfl := Option.some.inj hc
  exact h.whole_digits d (by rw [hcs]; exact List.mem_cons_self)

/-- The reader takes all of a numeral, and reads the decimal that its parts make. -/
theorem number?_chars {n : Numeral} (h : n.Lawful) (negative : Bool) :
    number? ((if negative then ['-'] else []) ++ n.chars) =
      some (.float (n.decimal.read negative) n.whole.length, []) := by
  have hwhole : cutWhole n.chars = (n.whole, pointed n.fraction ++ powered n.power) :=
    cutWhole_append h.whole_digits h.whole_ne h.whole_zero head?_pointed_append
  unfold number?
  split
  next sign body hsign =>
  have hbody : (sign, body) = (negative, n.chars) := by
    rw [← hsign]
    cases negative with
    | true => rfl
    | false =>
      -- a digit is no sign
      split
      · next heq =>
        have hdigit := h.head?_chars '-' (by rw [← List.nil_append n.chars, show [] ++ n.chars = _ from heq]; rfl)
        exact absurd hdigit (by decide)
      · rfl
  obtain ⟨rfl, rfl⟩ := Prod.mk.inj hbody
  rw [hwhole]
  dsimp only
  rw [cutFraction_pointed h.fraction_digits]
  dsimp only
  rw [cutExponent_powered h.power_digits]
  dsimp only
  rw [List.isEmpty_eq_false_iff.mpr h.whole_ne, if_neg Bool.false_ne_true, h.is_float, if_neg Bool.false_ne_true]
  rfl

end Reading

/-! ### Writing a decimal -/

/-- The numeral has these characters, and is worth as much as the decimal. -/
structure Writes (n : Numeral) (cs : List Char) (d : Decimal) : Prop where
  chars : n.chars = cs
  lawful : n.Lawful
  value : n.decimal.value = d.value

section Writing

variable {d : Decimal} {point : Int}

theorem isDigit_of_mem_zeros {k : Nat} {c : Char} (h : c ∈ List.replicate k '0') : c.isDigit = true := by
  rw [List.eq_of_mem_replicate h]
  rfl

theorem isDigit_of_mem_padded {k n : Nat} {c : Char} (h : c ∈ List.replicate k '0' ++ Nat.toDigits 10 n) :
    c.isDigit = true := by
  rcases List.mem_append.mp h with h | h
  · exact isDigit_of_mem_zeros h
  · exact isDigit_of_mem_toDigits h

theorem eq_zero_of_head? (h : (Nat.toDigits 10 d.digits).head? = some '0') : d.digits = 0 := by
  rw [← digitsValue_toDigits d.digits, toDigits_of_head? h]
  rfl

theorem pointed_of_ne {digits : List Char} (h : digits ≠ []) : pointed digits = '.' :: digits := by
  cases digits with
  | nil => exact absurd rfl h
  | cons c rest => rfl

/-- The digits of a numeral are those of the decimal with zeros behind them, at the place that this makes. -/
theorem value_decimal {n : Numeral} {k : Nat} (hdigits : digitsValue (n.whole ++ n.fraction) = d.digits * 10 ^ k)
    (hplace : d.digits ≠ 0 → (n.power.map exponentOf).getD 0 - n.fraction.length + k = d.exponent) :
    n.decimal.value = d.value := by
  rw [decimal, hdigits]
  exact Decimal.value_zeros hplace

/-- All digits stand behind the point. -/
theorem writes_behind (hpoint : d.digits ≠ 0 → point = d.size) (h : point ≤ 0) :
    Writes ⟨['0'], List.replicate (-point).toNat '0' ++ Nat.toDigits 10 d.digits, none⟩
      (plainDigits (Nat.toDigits 10 d.digits) point) d := by
  have hne : List.replicate (-point).toNat '0' ++ Nat.toDigits 10 d.digits ≠ [] :=
    List.append_ne_nil_of_right_ne_nil _ Nat.toDigits_ne_nil
  constructor
  · rw [chars, pointed_of_ne hne, plainDigits, if_pos h, powered, List.append_nil]
    rfl
  · exact ⟨by simp, by simp, fun _ => rfl, fun c hc => isDigit_of_mem_padded hc, nofun, .inl hne⟩
  · refine value_decimal (k := 0) ?_ fun hd => ?_
    · rw [← List.append_assoc, show ['0'] = List.replicate 1 '0' from rfl, List.replicate_append_replicate,
        digitsValue_zeros, digitsValue_toDigits, Nat.pow_zero, Nat.mul_one]
    · have hsize := hpoint hd
      unfold Decimal.size at hsize
      simp only [Option.map_none, Option.getD_none, List.length_append, List.length_replicate]
      omega

/-- All digits stand in front of the point, with zeros between them. -/
theorem writes_before (hpoint : d.digits ≠ 0 → point = d.size) (hzero : d.digits = 0 → point = 1)
    (h : ¬point ≤ 0) (hlength : (Nat.toDigits 10 d.digits).length ≤ point.toNat) :
    Writes ⟨Nat.toDigits 10 d.digits ++ List.replicate (point.toNat - (Nat.toDigits 10 d.digits).length) '0', ['0'],
        none⟩
      (plainDigits (Nat.toDigits 10 d.digits) point) d := by
  constructor
  · rw [chars, plainDigits, if_neg h, if_pos hlength]
    rfl
  · refine ⟨?_, ?_, ?_, by simp, nofun, .inl (List.cons_ne_nil _ _)⟩
    · intro c hc
      rcases List.mem_append.mp hc with hc | hc
      · exact isDigit_of_mem_toDigits hc
      · exact isDigit_of_mem_zeros hc
    · exact List.append_ne_nil_of_left_ne_nil Nat.toDigits_ne_nil _
    · intro hhead
      rw [List.head?_append_of_ne_nil _ Nat.toDigits_ne_nil] at hhead
      -- only the decimal zero begins with a zero, and the point is right behind it
      have hd := eq_zero_of_head? hhead
      rw [toDigits_of_head? hhead, hzero hd]
      rfl
  · refine value_decimal (k := point.toNat - (Nat.toDigits 10 d.digits).length + 1) ?_ fun hd => ?_
    · rw [List.append_assoc, show ['0'] = List.replicate 1 '0' from rfl, List.replicate_append_replicate,
        digitsValue_append_zeros, digitsValue_toDigits, Nat.pow_eq]
    · have hsize := hpoint hd
      unfold Decimal.size at hsize
      simp only [Option.map_none, Option.getD_none, List.length_singleton]
      omega

/-- The point stands among the digits. -/
theorem writes_among (hpoint : d.digits ≠ 0 → point = d.size) (h : ¬point ≤ 0)
    (hlength : ¬(Nat.toDigits 10 d.digits).length ≤ point.toNat) :
    Writes ⟨(Nat.toDigits 10 d.digits).take point.toNat, (Nat.toDigits 10 d.digits).drop point.toNat, none⟩
      (plainDigits (Nat.toDigits 10 d.digits) point) d := by
  have hne : (Nat.toDigits 10 d.digits).drop point.toNat ≠ [] := by
    rw [Ne, List.drop_eq_nil_iff]
    exact hlength
  constructor
  · rw [chars, pointed_of_ne hne, plainDigits, if_neg h, if_neg hlength, powered, List.append_nil]
  · refine ⟨?_, ?_, ?_, ?_, nofun, .inl hne⟩
    · intro c hc
      exact isDigit_of_mem_toDigits (List.mem_of_mem_take hc)
    · rw [Ne, List.take_eq_nil_iff]
      rintro (hnone | hnone)
      · omega
      · exact Nat.toDigits_ne_nil hnone
    · intro hhead
      rw [List.head?_take, if_neg (by omega)] at hhead
      -- the decimal zero has a single digit
      rw [toDigits_of_head? hhead, List.length_singleton] at hlength
      omega
    · intro c hc
      exact isDigit_of_mem_toDigits (List.mem_of_mem_drop hc)
  · refine value_decimal (k := 0) ?_ fun hd => ?_
    · rw [List.take_append_drop, digitsValue_toDigits, Nat.pow_zero, Nat.mul_one]
    · have hsize := hpoint hd
      unfold Decimal.size at hsize
      simp only [Option.map_none, Option.getD_none, List.length_drop]
      omega

theorem exponentOf_padded (width : Nat) (exponent : Int) :
    exponentOf (decide (exponent < 0), List.replicate (width - (Nat.toDigits 10 exponent.natAbs).length) '0' ++
      Nat.toDigits 10 exponent.natAbs) = exponent := by
  unfold exponentOf
  rw [digitsValue_zeros, digitsValue_toDigits]
  by_cases h : exponent < 0
  · rw [if_pos (decide_eq_true h)]
    omega
  · rw [if_neg (by simpa using h)]
    omega

/-- One digit, the others behind the point, and a power of ten. -/
theorem writes_scientific (width : Nat) (hpoint : d.digits ≠ 0 → point = d.size) :
    Writes ⟨(Nat.toDigits 10 d.digits).take 1, (Nat.toDigits 10 d.digits).drop 1,
        some (decide (point - 1 < 0), List.replicate (width - (Nat.toDigits 10 (point - 1).natAbs).length) '0' ++
          Nat.toDigits 10 (point - 1).natAbs)⟩
      (scientificDigits width (Nat.toDigits 10 d.digits) (point - 1)) d := by
  obtain ⟨c, rest, hdigits⟩ := List.exists_cons_of_ne_nil (Nat.toDigits_ne_nil (n := d.digits) (b := 10))
  constructor
  · rw [hdigits]
    unfold scientificDigits chars powered
    cases rest with
    | nil => simp [pointed]
    | cons e more => simp [pointed]
  · refine ⟨?_, ?_, ?_, ?_, ?_, .inr (Option.some_ne_none _)⟩
    · intro c hc
      exact isDigit_of_mem_toDigits (List.mem_of_mem_take hc)
    · rw [hdigits]
      exact List.cons_ne_nil _ _
    · rw [hdigits]
      intro hhead
      rw [Option.some.inj hhead]
      rfl
    · intro c hc
      exact isDigit_of_mem_toDigits (List.mem_of_mem_drop hc)
    · rintro _ ⟨⟩
      exact ⟨List.append_ne_nil_of_right_ne_nil _ Nat.toDigits_ne_nil, fun c hc => isDigit_of_mem_padded hc⟩
  · refine value_decimal (k := 0) ?_ fun hd => ?_
    · rw [List.take_append_drop, digitsValue_toDigits, Nat.pow_zero, Nat.mul_one]
    · have hsize := hpoint hd
      unfold Decimal.size at hsize
      rw [hdigits] at hsize ⊢
      simp only [Option.map_some, Option.getD_some, exponentOf_padded, List.drop_succ_cons, List.drop_zero]
      rw [List.length_cons] at hsize
      omega

/-- What is written for a decimal is a numeral of the same worth. -/
theorem exists_writes (layout : Layout) (d : Decimal) :
    ∃ n : Numeral, n.Writes (layout.decimal d) d ∧ (n.whole.length : Int) ≤ max 1 layout.plainUpTo := by
  generalize hpoint : (if d.digits = 0 then 1 else d.size) = point
  have hnonzero : d.digits ≠ 0 → point = d.size := fun hd => by rw [← hpoint, if_neg hd]
  have hzero : d.digits = 0 → point = 1 := fun hd => by rw [← hpoint, if_pos hd]
  have hdecimal : layout.decimal d = if layout.plainAbove < point ∧ point ≤ layout.plainUpTo then
      plainDigits (Nat.toDigits 10 d.digits) point
      else scientificDigits layout.exponentWidth (Nat.toDigits 10 d.digits) (point - 1) := by
    rw [← hpoint]
    rfl
  rw [hdecimal]
  split
  · next hplain =>
    by_cases hbehind : point ≤ 0
    · exact ⟨_, writes_behind hnonzero hbehind, le_max_left _ _⟩
    by_cases hlength : (Nat.toDigits 10 d.digits).length ≤ point.toNat
    · refine ⟨_, writes_before hnonzero hzero hbehind hlength, ?_⟩
      rw [List.length_append, List.length_replicate]
      omega
    · refine ⟨_, writes_among hnonzero hbehind hlength, ?_⟩
      rw [List.length_take]
      omega
  · refine ⟨_, writes_scientific layout.exponentWidth hnonzero, ?_⟩
    rw [List.length_take]
    omega

end Writing

end Numeral

/-- A finite value is read from its text, with at most sixteen digits in front of the point. -/
theorem ofWord_text {x : Binary64} (h : x.isFinite = true) :
    ∃ digits ≤ 16, ofWord (Binary64.text numberLayout x).toList = [.float x digits] := by
  obtain ⟨negative, d, hshortest⟩ := exists_shortest?_eq h
  obtain ⟨n, hwrites, hlength⟩ := Numeral.exists_writes numberLayout d
  have htext : (Binary64.text numberLayout x).toList = (if negative then ['-'] else []) ++ n.chars := by
    cases x with
    | finite s m e hcanonical =>
      rw [Binary64.text, hshortest]
      dsimp only
      rw [String.toList_ofList, hwrites.chars, negative_of_shortest? hshortest]
    | nan | infinite => cases h
  have hread : n.decimal.read negative = x := by
    rw [Decimal.read_congr hwrites.value, read_of_shortest? hshortest]
  have hnamed : named? ((if negative then ['-'] else []) ++ n.chars) = none := by
    apply named?_eq_none
    intro c hc
    rw [hwrites.chars] at hc
    rcases List.mem_append.mp hc with hc | hc
    · exact inNumeral_of_sign hc
    · exact inNumeral_decimal hc
  have hmost : (n.whole.length : Int) ≤ 16 := hlength
  refine ⟨n.whole.length, by omega, ?_⟩
  rw [htext, ofWord, hnamed, Numeral.number?_chars hwrites.lawful, hread]

end DeviceRelay.Json
