import DeviceRelay.Proofs.Text.Blank
import DeviceRelay.Text.Numeral

/-!
# Texts of decimal digits as numerals

A text that is trimmed to decimal digits, of any scripts, is nearly always a numeral, and its number is the one
that the digits spell. The exceptions are two: the limit on the digits, and the four separators U+001C to
U+001F, which are trimmed as blanks and yet belong to no numeral.

    text ──trim──▶ digits of any scripts ──asciiDigit──▶ numeralBody ──valueIn 10──▶ number

* `readInteger_of_isDecimal` — what such a text without a separator is read as.
* `not_isSeparator_of_readInteger` — whatever text is read as a number, no separator is in it.
* `readInteger_isOk_iff` — so such a text is read exactly if no separator is in it and its digits are within the
  limit.
-/

namespace DeviceRelay.Text

/-- The blanks that no numeral may stand between. -/
def isSeparator (c : Char) : Bool := 0x1C ≤ c.toNat && c.toNat ≤ 0x1F

/-- The ASCII digit of a value. -/
def asciiDigit (d : Nat) : Char := Char.ofNat ('0'.toNat + d)

/-- The values of the decimal digits in a text. -/
def digitValues (cs : List Char) : List Nat := cs.filterMap decimalValue?

/-! ### Digits and blanks -/

/-- What holds of all ASCII, checked one by one, holds of a character in it. -/
theorem of_ascii (P : Char → Prop) (h : ∀ n < 128, P (Char.ofNat n)) {c : Char} (hc : c.toNat < 128) :
    P c := by
  have := h c.toNat hc
  rwa [Char.ofNat_toNat] at this

theorem digit?_asciiDigit : ∀ d < 10, digit? 10 (asciiDigit d) = some d := by decide

theorem isAsciiBlank_asciiDigit : ∀ d < 10, isAsciiBlank (asciiDigit d) = false := by decide

theorem asciiDigit_ne : ∀ d < 10, asciiDigit d ≠ '-' ∧ asciiDigit d ≠ '+' ∧ asciiDigit d ≠ '_' := by
  decide

/-- A decimal digit stands as far behind the zero of its script as its value says. -/
theorem exists_zero_of_decimalValue? {c : Char} {d : Nat} (h : decimalValue? c = some d) :
    d < 10 ∧ ∃ z ∈ digitZeros, c.toNat = z + d := by
  obtain ⟨z, hfind, rfl⟩ := Option.map_eq_some_iff.mp h
  have hz := List.find?_some hfind
  simp only [Bool.and_eq_true, decide_eq_true_eq] at hz
  exact ⟨by omega, z, List.mem_of_find?_eq_some hfind, by omega⟩

/-- No decimal digit is a blank. -/
theorem not_isBlank_of_decimalValue? {c : Char} {d : Nat} (h : decimalValue? c = some d) :
    isBlank c = false := by
  have htable : ∀ z ∈ digitZeros, ∀ d < 10, blankRanges.has (z + d) = false := by decide +kernel
  obtain ⟨hd, z, hz, hc⟩ := exists_zero_of_decimalValue? h
  rw [isBlank, hc]
  exact htable z hz d hd

/-- The decimal digits of ASCII are its ten digits. -/
theorem eq_asciiDigit_of_lt {c : Char} {d : Nat} (h : decimalValue? c = some d) (hc : c.toNat < 128) :
    c = asciiDigit d := by
  have htable : ∀ z ∈ digitZeros, z < 128 → z = '0'.toNat := by decide
  obtain ⟨hd, z, hz, hcz⟩ := exists_zero_of_decimalValue? h
  rw [asciiDigit, ← htable z hz (by omega), ← hcz, Char.ofNat_toNat]

/-- The blanks of ASCII are those that a numeral may stand between, and the separators. -/
theorem isAsciiBlank_of_isBlank {c : Char} (h : isBlank c = true) (hs : isSeparator c = false)
    (hc : c.toNat < 128) : isAsciiBlank c = true := by
  have hall := of_ascii (fun c => isBlank c = true → isSeparator c = false → isAsciiBlank c = true)
    (by decide) hc
  exact hall h hs

theorem lt_of_isSeparator {c : Char} (h : isSeparator c = true) : c.toNat < 127 := by
  rw [isSeparator, Bool.and_eq_true, decide_eq_true_eq, decide_eq_true_eq] at h
  omega

theorem not_isAsciiBlank_of_isSeparator {c : Char} (h : isSeparator c = true) :
    isAsciiBlank c = false := by
  have hall := of_ascii (fun c => isSeparator c = true → isAsciiBlank c = false) (by decide)
    (Nat.lt_succ_of_lt (lt_of_isSeparator h))
  exact hall h

/-! ### The body of a numeral -/

/-- What stands for a character in the body of a numeral. -/
structure StandsFor (c' c : Char) : Prop where
  separator : isSeparator c = true → c' = c
  blank : isBlank c = true → isSeparator c = false → isAsciiBlank c' = true
  digit : ∀ d, decimalValue? c = some d → c' = asciiDigit d

theorem standsFor_self {c : Char} (h : c.toNat < 128) : StandsFor c c where
  separator _ := rfl
  blank hblank hseparator := isAsciiBlank_of_isBlank hblank hseparator h
  digit _ hd := eq_asciiDigit_of_lt hd h

theorem standsFor_toAsciiNumeral (c : Char) : StandsFor (toAsciiNumeral c) c := by
  unfold toAsciiNumeral
  split
  · exact standsFor_self (by omega)
  next hc =>
  split
  · next hblank =>
    refine ⟨fun hs => absurd (lt_of_isSeparator hs) hc, fun _ _ => rfl, ?_⟩
    intro d hd
    rw [not_isBlank_of_decimalValue? hd] at hblank
    cases hblank
  next hblank =>
  refine ⟨fun hs => absurd (lt_of_isSeparator hs) hc, fun h => absurd h hblank, ?_⟩
  intro d hd
  rw [hd]
  rfl

/-- The body of a numeral is its text, character by character, without the blanks around it. -/
theorem exists_numeralBody_eq (s : String) :
    ∃ f, numeralBody s = trimBy isAsciiBlank (s.toList.map f) ∧ ∀ c ∈ s.toList, StandsFor (f c) c := by
  unfold numeralBody
  dsimp only
  split
  · next hall =>
    refine ⟨id, by rw [List.map_id], fun c hc => standsFor_self ?_⟩
    exact of_decide_eq_true (List.all_eq_true.mp hall c hc)
  · exact ⟨toAsciiNumeral, rfl, fun c _ => standsFor_toAsciiNumeral c⟩

/-- A separator stays in the body. -/
theorem mem_numeralBody {s : String} {c : Char} (h : c ∈ s.toList) (hc : isSeparator c = true) :
    c ∈ numeralBody s := by
  obtain ⟨f, hbody, hf⟩ := exists_numeralBody_eq s
  have hmem : c ∈ s.toList.map f := List.mem_map.mpr ⟨c, h, (hf c h).separator hc⟩
  rw [hbody]
  exact mem_trimBy hmem (not_isAsciiBlank_of_isSeparator hc)

/-- Decimal digits become the ASCII digits of their values. -/
theorem map_eq_of_standsFor {f : Char → Char} {cs : List Char}
    (hcs : ∀ c ∈ cs, (decimalValue? c).isSome) (hf : ∀ c ∈ cs, StandsFor (f c) c) :
    cs.map f = (digitValues cs).map asciiDigit := by
  induction cs with
  | nil => rfl
  | cons c rest ih =>
    obtain ⟨d, hd⟩ := Option.isSome_iff_exists.mp (hcs c List.mem_cons_self)
    rw [List.map_cons, (hf c List.mem_cons_self).digit d hd, digitValues, List.filterMap_cons_some hd,
      List.map_cons]
    congr 1
    exact ih (fun a ha => hcs a (List.mem_cons_of_mem _ ha)) (fun a ha => hf a (List.mem_cons_of_mem _ ha))

theorem ne_nil_of_isDecimal {cs : List Char} (h : isDecimal cs = true) : cs ≠ [] := by
  rintro rfl
  cases h

theorem length_digitValues {cs : List Char} (h : isDecimal cs = true) :
    (digitValues cs).length = cs.length := by
  rw [isDecimal, Bool.and_eq_true, List.all_eq_true] at h
  exact List.filterMap_length_eq_length.mpr h.2

theorem lt_of_mem_digitValues {cs : List Char} : ∀ d ∈ digitValues cs, d < 10 := by
  intro d hd
  obtain ⟨c, -, hc⟩ := List.mem_filterMap.mp hd
  exact (exists_zero_of_decimalValue? hc).1

/-- The body of a text that is trimmed to decimal digits and has no separator. -/
theorem numeralBody_of_isDecimal {s : String} (hdecimal : isDecimal (trim s.toList) = true)
    (hs : ∀ c ∈ s.toList, isSeparator c = false) :
    numeralBody s = (digitValues (trim s.toList)).map asciiDigit := by
  obtain ⟨f, hbody, hf⟩ := exists_numeralBody_eq s
  obtain ⟨front, back, hcs, hfront, hback⟩ := trimBy_decompose isBlank s.toList
  rw [isDecimal, Bool.and_eq_true, List.all_eq_true] at hdecimal
  obtain ⟨hne, hdigits⟩ := hdecimal
  rw [trim] at *
  generalize trimBy isBlank s.toList = digits at *
  -- around the digits every blank becomes one that is dropped, and no digit becomes a blank
  have hmem : ∀ {part : List Char}, (∀ c ∈ part, c ∈ s.toList) → part.all isBlank = true →
      (part.map f).all isAsciiBlank = true := by
    intro part hpart hblank
    rw [List.all_map, List.all_eq_true]
    intro c hc
    exact (hf c (hpart c hc)).blank (List.all_eq_true.mp hblank c hc) (hs c (hpart c hc))
  have hmap : digits.map f = (digitValues digits).map asciiDigit :=
    map_eq_of_standsFor hdigits fun c hc => hf c (by rw [hcs]; simp [hc])
  have hkept : ∀ c ∈ digits.map f, isAsciiBlank c = false := by
    intro c hc
    rw [hmap] at hc
    obtain ⟨d, hd, rfl⟩ := List.mem_map.mp hc
    exact isAsciiBlank_asciiDigit d (lt_of_mem_digitValues d hd)
  rw [hbody, hcs, List.map_append, List.map_append, ← hmap]
  refine trimBy_between (hmem (fun c hc => by rw [hcs]; simp [hc]) hfront)
    (hmem (fun c hc => by rw [hcs]; simp [hc]) hback) ?_ ?_ ?_
  · simpa using hne
  · exact fun c hc => hkept c (List.mem_of_mem_head? hc)
  · exact fun c hc => hkept c (List.mem_of_mem_getLast? hc)

/-! ### Reading the body -/

theorem dropBaseMark_ten (cs : List Char) : dropBaseMark 10 cs = cs := by
  unfold dropBaseMark
  split
  · exact if_neg (by simp [baseMark?])
  · rfl

/-- ASCII digits are read to the last. -/
theorem leadingDigits_asciiDigits {values : List Nat} (h : ∀ d ∈ values, d < 10) :
    leadingDigits 10 (values.map asciiDigit) = (values, []) := by
  induction values with
  | nil => rw [List.map_nil, leadingDigits]
  | cons d rest ih =>
    rw [List.map_cons, leadingDigits.eq_def]
    dsimp only
    rw [digit?_asciiDigit d (h d List.mem_cons_self)]
    dsimp only
    rw [ih fun a ha => h a (List.mem_cons_of_mem _ ha)]

/-- What stands before the tail is digits and underscores. -/
theorem leadingDigits_append (base : Nat) (cs : List Char) :
    ∃ front, cs = front ++ (leadingDigits base cs).2 ∧
      ∀ c ∈ front, (digit? base c).isSome ∨ c = '_' := by
  fun_induction leadingDigits base cs with
  | case1 => exact ⟨[], rfl, by simp⟩
  | case2 c rest d hd ds tail htail ih =>
    obtain ⟨front, hrest, hfront⟩ := ih
    rw [htail] at hrest
    refine ⟨c :: front, by rw [List.cons_append, ← hrest], ?_⟩
    rw [List.forall_mem_cons]
    exact ⟨Or.inl (by rw [hd]; rfl), hfront⟩
  | case3 d tail hd hmark ih =>
    obtain ⟨front, hrest, hfront⟩ := ih
    refine ⟨'_' :: front, by rw [List.cons_append, ← hrest], ?_⟩
    rw [List.forall_mem_cons]
    exact ⟨Or.inr rfl, hfront⟩
  | case4 d tail hd hmark => exact ⟨[], rfl, by simp⟩
  | case5 hmark => exact ⟨[], rfl, by simp⟩
  | case6 c rest hd hc => exact ⟨[], rfl, by simp⟩

/-- No separator is part of a numeral in base ten. -/
theorem not_isSeparator_of_digit? {c : Char}
    (h : (digit? 10 c).isSome ∨ c = '_' ∨ c = '-' ∨ c = '+') : isSeparator c = false := by
  rcases h with h | rfl | rfl | rfl
  · cases hs : isSeparator c with
    | false => rfl
    | true =>
      have hnone := of_ascii (fun c => isSeparator c = true → digit? 10 c = none) (by decide)
        (Nat.lt_succ_of_lt (lt_of_isSeparator hs))
      rw [hnone hs] at h
      cases h
  · rfl
  · rfl
  · rfl

theorem valueIn_lt {digits : List Nat} (h : ∀ d ∈ digits, d < 10) :
    valueIn 10 digits < Nat.pow 10 digits.length := by
  rw [Nat.pow_eq]
  have hfold : ∀ (ds : List Nat) (n : Nat), (∀ d ∈ ds, d < 10) →
      ds.foldl (fun n d => n * 10 + d) n < (n + 1) * 10 ^ ds.length := by
    intro ds
    induction ds with
    | nil => intro n _; simp
    | cons d rest ih =>
      intro n hds
      have hd := hds d List.mem_cons_self
      have hrest := ih (n * 10 + d) fun a ha => hds a (List.mem_cons_of_mem _ ha)
      calc (d :: rest).foldl (fun n d => n * 10 + d) n
          < (n * 10 + d + 1) * 10 ^ rest.length := hrest
        _ ≤ ((n + 1) * 10) * 10 ^ rest.length := Nat.mul_le_mul_right _ (by omega)
        _ = (n + 1) * 10 ^ (d :: rest).length := by
          rw [List.length_cons, Nat.pow_succ, Nat.mul_assoc, Nat.mul_comm 10]
  have := hfold digits 0 h
  rwa [Nat.zero_add, Nat.one_mul] at this

/-! ### Decimal texts -/

/-- Decimal digits with blanks around them, none of them a separator, are a numeral unless they are too many;
its number is theirs. -/
theorem readInteger_of_isDecimal {s : String} (hdecimal : isDecimal (trim s.toList) = true)
    (hs : ∀ c ∈ s.toList, isSeparator c = false) :
    readInteger s =
      if digitLimit < (trim s.toList).length then .error (.tooManyDigits (trim s.toList).length)
      else .ok (valueIn 10 (digitValues (trim s.toList))) := by
  have hbody := numeralBody_of_isDecimal hdecimal hs
  have hlength := length_digitValues hdecimal
  have hvalues : ∀ d ∈ digitValues (trim s.toList), d < 10 := lt_of_mem_digitValues
  have hpos := List.length_pos_iff.mpr (ne_nil_of_isDecimal hdecimal)
  rw [← hlength] at hpos ⊢
  generalize digitValues (trim s.toList) = values at *
  have hread := leadingDigits_asciiDigits hvalues
  cases values with
  | nil => cases hpos
  | cons d rest =>
    have hne := asciiDigit_ne d (hvalues d List.mem_cons_self)
    rw [List.map_cons] at hread hbody
    unfold readInteger readIntegerIn
    rw [hbody]
    split
    next negative body hsign =>
    -- the text begins with a digit, so that there is no sign
    have hsigned : negative = false ∧ body = asciiDigit d :: rest.map asciiDigit := by
      split at hsign
      · next heq => exact absurd (List.cons.inj heq).1 hne.1
      · next heq => exact absurd (List.cons.inj heq).1 hne.2.1
      · next => exact ⟨(Prod.mk.inj hsign).1.symm, (Prod.mk.inj hsign).2.symm⟩
    obtain ⟨rfl, rfl⟩ := hsigned
    dsimp only
    rw [dropBaseMark_ten, hread, if_neg (by simp [hne.2.2])]
    simp only [true_and, List.isEmpty_nil, Bool.not_true, Bool.false_eq_true, if_false]

/-- The body of a numeral is a sign, digits and underscores, to the last character. -/
theorem mem_of_readInteger {s : String} {n : Int} (h : readInteger s = .ok n) :
    ∀ c ∈ numeralBody s, (digit? 10 c).isSome ∨ c = '_' ∨ c = '-' ∨ c = '+' := by
  intro c hc
  unfold readInteger readIntegerIn at h
  split at h
  next negative body hsign =>
  have hsigned : c ∈ body ∨ c = '-' ∨ c = '+' := by
    split at hsign
    · next heq =>
      obtain ⟨-, rfl⟩ := Prod.mk.inj hsign
      rw [heq, List.mem_cons] at hc
      exact hc.symm.imp_right Or.inl
    · next heq =>
      obtain ⟨-, rfl⟩ := Prod.mk.inj hsign
      rw [heq, List.mem_cons] at hc
      exact hc.symm.imp_right Or.inr
    · next =>
      obtain ⟨-, rfl⟩ := Prod.mk.inj hsign
      exact Or.inl hc
  dsimp only at h
  rw [dropBaseMark_ten] at h
  split at h
  · cases h
  split at h
  · cases h
  split at h
  · cases h
  next htail =>
  -- nothing may be left over behind the digits
  obtain ⟨front, hfront, hmarks⟩ := leadingDigits_append 10 body
  have hnil : (leadingDigits 10 body).2 = [] := by simpa using htail
  rw [hnil, List.append_nil] at hfront
  subst hfront
  rcases hsigned with hmem | hsign
  · exact (hmarks c hmem).imp_right Or.inl
  · exact Or.inr (Or.inr hsign)

/-- A numeral has no separator in it: that would still be there in its body. -/
theorem not_isSeparator_of_readInteger {s : String} {n : Int} (h : readInteger s = .ok n) :
    ∀ c ∈ s.toList, isSeparator c = false := by
  intro c hc
  cases hs : isSeparator c with
  | false => rfl
  | true =>
    rw [← hs]
    exact not_isSeparator_of_digit? (mem_of_readInteger h c (mem_numeralBody hc hs))

/-- A text that is trimmed to decimal digits is read exactly if no separator stands around them and they are
within the limit. -/
theorem readInteger_isOk_iff {s : String} (hdecimal : isDecimal (trim s.toList) = true) :
    (∃ n, readInteger s = .ok n) ↔
      (∀ c ∈ s.toList, isSeparator c = false) ∧ (trim s.toList).length ≤ digitLimit := by
  constructor
  · rintro ⟨n, hn⟩
    have hs := not_isSeparator_of_readInteger hn
    rw [readInteger_of_isDecimal hdecimal hs] at hn
    split at hn
    · cases hn
    · next hlimit => exact ⟨hs, Nat.not_lt.mp hlimit⟩
  · rintro ⟨hs, hlimit⟩
    rw [readInteger_of_isDecimal hdecimal hs, if_neg (Nat.not_lt.mpr hlimit)]
    exact ⟨_, rfl⟩

/-- An integer of few enough digits may be written out. -/
theorem isWritable_of_lt_pow {n : Int} {digits : Nat} (h : n.natAbs < Nat.pow 10 digits)
    (hlimit : digits ≤ digitLimit) : isWritable n = true := by
  rw [isWritable, decide_eq_true_eq]
  generalize digitLimit = limit at hlimit ⊢
  exact Nat.lt_of_lt_of_le h (Nat.pow_le_pow_right (by decide) hlimit)

/-- The number of such a text may be written out again. -/
theorem isWritable_of_readInteger {s : String} {n : Int} (hdecimal : isDecimal (trim s.toList) = true)
    (h : readInteger s = .ok n) : isWritable n = true := by
  obtain ⟨hs, hlimit⟩ := (readInteger_isOk_iff hdecimal).mp ⟨n, h⟩
  rw [readInteger_of_isDecimal hdecimal hs, if_neg (Nat.not_lt.mpr hlimit)] at h
  obtain rfl := Except.ok.inj h
  refine isWritable_of_lt_pow ?_ hlimit
  rw [Int.natAbs_natCast, ← length_digitValues hdecimal]
  exact valueIn_lt lt_of_mem_digitValues

end DeviceRelay.Text
