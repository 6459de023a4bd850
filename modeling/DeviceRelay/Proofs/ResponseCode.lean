import DeviceRelay.Proofs.Binary64
import DeviceRelay.Proofs.Envelope
import Mathlib.Data.Nat.Digits.Defs

/-!
# Response codes, exactly

A code is one number in three notations. Each notation has a meaning of its own, said without the reader: an integer is
itself, a binary64 value is a quotient, and a text is what its digits spell in base ten.

    int n ─────────────┐
    float num / den ───┼──▶ n ──▶ 200, 400, 404, 500
    text  blank … 00404 … blank ─┘

* `Binary64.toInt?_eq_some_iff` — the integers among the binary64 values.
* `ResponseCode.numberOf_eq_ok_iff` — what is read as an integer denotes it, and nothing else is read.
* `ResponseCode.read_exact` — the codes that metrics hold.
-/

namespace DeviceRelay

/-! ### Numbers in three notations -/

/-- The number that digits of any scripts spell in base ten. -/
def Text.spelled (digits : List Char) : Nat := Nat.ofDigits 10 (digitValues digits).reverse

theorem Text.valueIn_digitValues (digits : List Char) : valueIn 10 (digitValues digits) = spelled digits := by
  rw [spelled, Nat.ofDigits_eq_foldr, List.foldr_reverse, valueIn]
  congr 1
  funext n d
  rw [Nat.mul_comm, Nat.add_comm]
  rfl

/-- The value is exactly that integer. -/
def Binary64.Is (x : Binary64) (n : Int) : Prop := ∃ num den, x.quotient? = some (num, den) ∧ num = n * den

theorem Binary64.toInt?_eq_some_iff {x : Binary64} {n : Int} : x.toInt? = some n ↔ x.Is n := by
  cases x with
  | nan => simp [toInt?, wholePart, Is, quotient?]
  | infinite negative => simp [toInt?, wholePart, Is, quotient?]
  | finite negative m e h =>
    have hden := scaled_pos m e
    unfold toInt? wholePart Is quotient?
    dsimp only
    generalize (scaled m e).1 = num at *
    generalize (scaled m e).2 = den at *
    have hden' : (den : Int) ≠ 0 := by omega
    by_cases hrest : num % den = 0
    · -- without a rest the quotient is its whole part
      obtain ⟨k, rfl⟩ := Nat.dvd_of_mod_eq_zero hrest
      rw [Nat.cast_mul, mul_comm (den : Int), Int.mul_ediv_cancel _ hden']
      cases negative with
      | false => simp [hrest, hden.ne']
      | true => simp [hrest, ← neg_mul, hden.ne']
    · -- with a rest there is no integer, and none has that quotient
      have hnone (a : Int) : (num : Int) ≠ a * den := by
        intro h
        exact hrest (Nat.mod_eq_zero_of_dvd (Int.natCast_dvd_natCast.mp (Dvd.intro_left a h.symm)))
      cases negative with
      | false => simp [hrest, hnone]
      | true => simp [hrest, neg_eq_iff_eq_neg, ← neg_mul, hnone]

/-! ### Texts of digits -/

namespace Text

theorem isBlank_of_isSeparator {c : Char} (h : isSeparator c = true) : isBlank c = true := by
  have hall := of_ascii (fun c => isSeparator c = true → isBlank c = true) (by decide)
    (Nat.lt_succ_of_lt (lt_of_isSeparator h))
  exact hall h

theorem not_isBlank_of_isDecimal {digits : List Char} (h : isDecimal digits = true) :
    ∀ c ∈ digits, isBlank c = false := by
  intro c hc
  rw [isDecimal, Bool.and_eq_true, List.all_eq_true] at h
  obtain ⟨d, hd⟩ := Option.isSome_iff_exists.mp (h.2 c hc)
  exact not_isBlank_of_decimalValue? hd

/-- The blanks that may stand around the digits of a numeral. -/
def AreMargins (front back : List Char) : Prop := ∀ c ∈ front ++ back, isBlank c = true ∧ isSeparator c = false

/-- Digits between margins are trimmed out again, and are read unless they are too many. -/
theorem readInteger_between {front digits back : List Char} (hmargins : AreMargins front back)
    (hdecimal : isDecimal digits = true) :
    trim (front ++ digits ++ back) = digits ∧ readInteger (String.ofList (front ++ digits ++ back)) =
      if digitLimit < digits.length then .error (.tooManyDigits digits.length)
      else .ok (spelled digits) := by
  have hkept := not_isBlank_of_isDecimal hdecimal
  have hblank := List.forall_mem_append.mp hmargins
  have htrim : trim (front ++ digits ++ back) = digits :=
    trimBy_between (List.all_eq_true.mpr fun c hc => (hblank.1 c hc).1)
      (List.all_eq_true.mpr fun c hc => (hblank.2 c hc).1) (ne_nil_of_isDecimal hdecimal)
      (fun c hc => hkept c (List.mem_of_mem_head? hc)) (fun c hc => hkept c (List.mem_of_mem_getLast? hc))
  have hseparator : ∀ c ∈ front ++ digits ++ back, isSeparator c = false := by
    rw [List.forall_mem_append, List.forall_mem_append]
    refine ⟨⟨fun c hc => (hblank.1 c hc).2, fun c hc => ?_⟩, fun c hc => (hblank.2 c hc).2⟩
    -- a separator is a blank, and no digit is one
    by_contra hs
    have := isBlank_of_isSeparator (eq_true_of_ne_false hs)
    rw [hkept c hc] at this
    cases this
  refine ⟨htrim, ?_⟩
  have hread := readInteger_of_isDecimal (s := String.ofList (front ++ digits ++ back))
  rw [String.toList_ofList, htrim, valueIn_digitValues] at hread
  exact hread hdecimal hseparator

/-- A text that is trimmed to digits and read is these digits between margins. -/
theorem exists_margins_of_readInteger {s : String} {n : Int} (hdecimal : isDecimal (trim s.toList) = true)
    (h : readInteger s = .ok n) :
    ∃ front digits back, s = String.ofList (front ++ digits ++ back) ∧ AreMargins front back ∧
      isDecimal digits = true := by
  obtain ⟨hseparator, -⟩ := (readInteger_isOk_iff hdecimal).mp ⟨n, h⟩
  obtain ⟨front, back, hs, hfront, hback⟩ := trimBy_decompose isBlank s.toList
  refine ⟨front, trim s.toList, back, ?_, ?_, hdecimal⟩
  · rw [trim, ← hs, String.ofList_toList]
  · intro c hc
    have hmem : c ∈ s.toList := by
      rw [hs]
      rcases List.mem_append.mp hc with hc | hc <;> simp [hc]
    refine ⟨?_, hseparator c hmem⟩
    rcases List.mem_append.mp hc with hc | hc
    · exact List.all_eq_true.mp hfront c hc
    · exact List.all_eq_true.mp hback c hc

end Text

/-! ### Values -/

/-- The integer that a value stands for. -/
inductive Value.Denotes : Value → Int → Prop where
  | int (n : Int) : Denotes (.int n) n
  | float {x : Binary64} {n : Int} (h : x.Is n) : Denotes (.float x) n
  /-- Digits of any scripts, leading zeros among them. -/
  | text {front digits back : List Char} (hmargins : Text.AreMargins front back)
      (hdecimal : Text.isDecimal digits = true) (hlimit : digits.length ≤ Text.digitLimit) :
      Denotes (.text (String.ofList (front ++ digits ++ back))) (Text.spelled digits)

/-- The values that stand for no integer: whole kinds of them, and what has a fraction, a sign or a point. -/
inductive Value.IsNoInteger : Value → Prop where
  | bool (b : Bool) : IsNoInteger (.bool b)
  | fraction {x : Binary64} (h : ∀ n, ¬x.Is n) : IsNoInteger (.float x)
  | marked {s : String} (h : ∃ c ∈ s.toList, c = '+' ∨ c = '-' ∨ c = '.') : IsNoInteger (.text s)
  | bytes (b : Bytes) : IsNoInteger (.bytes b)
  | buffer (b : Bytes) : IsNoInteger (.buffer b)
  | list (items : List Value) : IsNoInteger (.list items)
  | tuple (items : List Value) : IsNoInteger (.tuple items)
  | dict (entries : List (String × Value)) : IsNoInteger (.dict entries)

theorem Value.IsNoInteger.not_denotes {v : Value} (h : v.IsNoInteger) (n : Int) : ¬v.Denotes n := by
  intro hn
  cases hn with
  | int => cases h
  | float hx =>
    cases h with
    | fraction hnone => exact hnone n hx
  | text hmargins hdecimal hlimit =>
    cases h with
    | marked hmark =>
      obtain ⟨c, hc, hmark⟩ := hmark
      -- a mark is neither a digit nor a blank
      have hneither : Text.isBlank c = false ∧ Text.decimalValue? c = none := by
        rcases hmark with rfl | rfl | rfl <;> decide
      rw [String.toList_ofList, List.append_assoc, List.mem_append, List.mem_append] at hc
      rw [Text.isDecimal, Bool.and_eq_true, List.all_eq_true] at hdecimal
      rcases hc with hc | hc | hc
      · simpa [hneither.1] using (hmargins c (List.mem_append_left _ hc)).1
      · simpa [hneither.2] using hdecimal.2 c hc
      · simpa [hneither.1] using (hmargins c (List.mem_append_right _ hc)).1

namespace ResponseCode

theorem numberOf_eq_ok_iff {v : Value} {n : Int} : numberOf v = .ok n ↔ v.Denotes n := by
  constructor
  · intro h
    cases v with
    | int k =>
      obtain rfl := Except.ok.inj h
      exact .int k
    | float x =>
      rw [numberOf] at h
      split at h
      · next k hx =>
        obtain rfl := Except.ok.inj h
        exact .float (Binary64.toInt?_eq_some_iff.mp hx)
      · cases h
    | text s =>
      rw [numberOf] at h
      split at h
      · next htrimmed =>
        have hread := mapError_eq_ok.mp h
        obtain ⟨front, digits, back, rfl, hmargins, hdecimal⟩ := Text.exists_margins_of_readInteger htrimmed hread
        rw [(Text.readInteger_between hmargins hdecimal).2] at hread
        obtain ⟨hlimit, hread⟩ := ite_error_eq_ok.mp hread
        obtain rfl := Except.ok.inj hread
        exact .text hmargins hdecimal (Nat.not_lt.mp hlimit)
      · cases h
    | _ => cases h
  · intro h
    cases h with
    | int => rfl
    | float hx => rw [numberOf, Binary64.toInt?_eq_some_iff.mpr hx]
    | text hmargins hdecimal hlimit =>
      obtain ⟨htrim, hread⟩ := Text.readInteger_between hmargins hdecimal
      rw [numberOf, String.toList_ofList, htrim, if_pos hdecimal, hread, if_neg (Nat.not_lt.mpr hlimit),
        mapError_ok]

theorem ofNumber?_eq_some_iff {n : Int} {code : ResponseCode} : ofNumber? n = some code ↔ n = code.number := by
  constructor
  · intro h
    unfold ofNumber? at h
    split at h
    · next hn => cases h; exact hn
    split at h
    · next hn => cases h; exact hn
    split at h
    · next hn => cases h; exact hn
    split at h
    · next hn => cases h; exact hn
    · cases h
  · rintro rfl
    exact ofNumber?_number code

/-- A code is read where there is none, and where there is a value for its number. -/
theorem read_eq_ok_iff {metrics : Dictionary Value} {code : ResponseCode} :
    read metrics = .ok code ↔
      (code = .accepted ∧ (metrics.get? metric = none ∨ metrics.get? metric = some .null)) ∨
        ∃ v, metrics.get? metric = some v ∧ v.Denotes code.number := by
  have hnull : ¬Value.null.Denotes code.number := by
    intro h
    cases h
  unfold read
  split
  · next hget => simp [hget, eq_comm]
  · next hget => simp [hget, hnull, eq_comm]
  · next v hv hget =>
    have hv' : v ≠ .null := hv
    simp only [hget, reduceCtorEq, Option.some.injEq, hv', or_self, and_false, false_or, exists_eq_left']
    rw [← numberOf_eq_ok_iff]
    refine bind_eq_ok.trans ⟨?_, fun h => ⟨code.number, h, by rw [ofNumber?_number]⟩⟩
    rintro ⟨n, hn, hcode⟩
    split at hcode
    · next known hknown =>
      obtain rfl := Except.ok.inj hcode
      rw [← ofNumber?_eq_some_iff.mp hknown, hn]
    · cases hcode

/-- A code is read where there is none or null, which stands for acceptance, and where there is a value that denotes
its number, whatever the notation; nowhere else. Texts of digits between blanks, tabs and line ends are such values,
and values that are no integers are refused. -/
theorem read_exact (metrics : Dictionary Value) :
    (∀ code, read metrics = .ok code ↔
      (code = .accepted ∧ (metrics.get? metric = none ∨ metrics.get? metric = some .null)) ∨
        ∃ v, metrics.get? metric = some v ∧ v.Denotes code.number) ∧
    (∀ (code : ResponseCode) (front digits back : List Char),
      metrics.get? metric = some (.text (String.ofList (front ++ digits ++ back))) →
      (∀ c ∈ front ++ back, c ∈ [' ', '\t', '\n', '\r', '\x0b', '\x0c']) → Text.isDecimal digits = true →
      digits.length ≤ 4300 → Text.spelled digits = code.number →
      read metrics = .ok code) ∧
    ∀ v, metrics.get? metric = some v → v.IsNoInteger → ∃ fault, read metrics = .error fault := by
  refine ⟨fun code => read_eq_ok_iff, ?_, ?_⟩
  · intro code front digits back hget hmargins hdecimal hlimit hvalue
    have hascii : [' ', '\t', '\n', '\r', '\x0b', '\x0c'].all
        (fun c => Text.isBlank c && !Text.isSeparator c) = true := by decide
    refine read_eq_ok_iff.mpr (Or.inr ⟨_, hget, ?_⟩)
    rw [← hvalue]
    refine .text (fun c hc => ?_) hdecimal hlimit
    simpa using List.all_eq_true.mp hascii c (hmargins c hc)
  · intro v hget hv
    cases hread : read metrics with
    | error fault => exact ⟨fault, rfl⟩
    | ok code =>
      rcases read_eq_ok_iff.mp hread with ⟨-, hnone | hnull⟩ | ⟨v', hget', hdenotes⟩
      · rw [hnone] at hget
        cases hget
      · obtain rfl := Option.some.inj (hnull.symm.trans hget)
        cases hv
      · obtain rfl := Option.some.inj (hget'.symm.trans hget)
        exact absurd hdenotes (hv.not_denotes code.number)

/-- Zeros and digits of two scripts, between a tab and a line end. -/
def paddedCode : Dictionary Value := .ofList [(metric, .text "\t00٤04\n")]

theorem read_exact_padded :
    read paddedCode = .ok .notFound ∧
      ∃ fault, read (.ofList [(metric, .text "+404")]) = .error fault := by
  constructor
  · exact (read_exact paddedCode).2.1 .notFound ['\t'] ['0', '0', '٤', '0', '4'] ['\n'] (by rfl) (by simp)
      (by decide) (by decide) (by decide)
  · exact (read_exact _).2.2 (.text "+404") rfl (.marked ⟨'+', by decide, Or.inl rfl⟩)

end ResponseCode

end DeviceRelay
