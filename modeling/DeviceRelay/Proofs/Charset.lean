import DeviceRelay.Charset

/-!
# Decoding undoes encoding

    List Char ──encode──▶ Bytes ──decode──▶ List Char

Each Unicode charset spells every row of characters, and decoding what it spells gives the row back
(`decode_encode`). The work is for one character in front of other octets: the machine of UTF-8 holds,
behind each octet of a character of number `n`, the number that `n` has without its last six, twelve or
eighteen bits; UTF-16 meets `n` in one unit or a pair.
-/

namespace DeviceRelay.Charset

theorem toNat_ofNat {n : Nat} (h : n < 256) : (UInt8.ofNat n).toNat = n :=
  UInt8.toNat_ofNat_of_lt' h

/-- The numbers of characters lie below or above the surrogates. -/
theorem toNat_valid (c : Char) : c.toNat < 0xD800 ∨ (0xDFFF < c.toNat ∧ c.toNat < 0x110000) :=
  c.valid

/-! ### UTF-8 -/

namespace Utf8

/-- The octet `tail n` lies in the range that is due. -/
def Pending.Admits (p : Pending) (n : Nat) : Prop := p.low ≤ 0x80 + n % 64 ∧ 0x80 + n % 64 ≤ p.high

theorem toNat_tail (n : Nat) : (tail n).toNat = 0x80 + n % 64 := toNat_ofNat (by omega)

/-- Six more bits complete the number that was gathered. -/
theorem bits_tail {bits n : Nat} (h : bits = n / 64) : bits * 64 + ((tail n).toNat - 0x80) = n := by
  rw [toNat_tail, h]
  omega

/-- The last octet of a character. -/
theorem run_last {p : Pending} {n : Nat} (howed : p.owed = 0) (hbits : p.bits = n / 64)
    (hn : p.Admits n) (pos : Nat) (rest : Bytes) :
    run (some p) pos (tail n :: rest) = (run none (pos + 1) rest).map (Char.ofNat n :: ·) := by
  have hrange : p.low ≤ (tail n).toNat ∧ (tail n).toNat ≤ p.high := by rw [toNat_tail]; exact hn
  rw [run, if_pos hrange, howed]
  dsimp only
  rw [bits_tail hbits]

/-- An octet inside a character; behind it any continuation octet may come. -/
theorem run_more {p : Pending} {n owed : Nat} (howed : p.owed = owed + 1) (hbits : p.bits = n / 64)
    (hn : p.Admits n) (pos : Nat) (rest : Bytes) :
    run (some p) pos (tail n :: rest) =
      run (some ⟨p.start, p.lead, owed, 0x80, 0xBF, n⟩) (pos + 1) rest := by
  have hrange : p.low ≤ (tail n).toNat ∧ (tail n).toNat ≤ p.high := by rw [toNat_tail]; exact hn
  rw [run, if_pos hrange, howed]
  dsimp only
  rw [bits_tail hbits]

theorem admits_any (start : Nat) (lead : UInt8) (owed bits n : Nat) :
    (Pending.mk start lead owed 0x80 0xBF bits).Admits n := by
  simp only [Pending.Admits]
  omega

/-- A lead octet, where the machine stands between characters. -/
theorem run_lead {b : UInt8} {p : Pending} {pos : Nat} (hb : 0x80 ≤ b.toNat)
    (hp : pending? pos b = some p) (rest : Bytes) :
    run none pos (b :: rest) = run (some p) (pos + 1) rest := by
  rw [run, if_neg (by omega), hp]

/-- The lead of a character of two octets. -/
theorem pending?_two {n : Nat} (hlow : 0x80 ≤ n) (hhigh : n < 0x800) (pos : Nat) :
    ∃ p, pending? pos (UInt8.ofNat (0xC0 + n / 64)) = some p ∧ p.owed = 0 ∧ p.bits = n / 64 ∧
      p.Admits n := by
  have hb : (UInt8.ofNat (0xC0 + n / 64)).toNat = 0xC0 + n / 64 := toNat_ofNat (by omega)
  unfold pending?
  rw [if_pos (by omega)]
  exact ⟨_, rfl, rfl, by simp only [hb]; omega, admits_any _ _ _ _ _⟩

/-- The lead of a character of three octets; the octet behind it keeps out what two octets spell and
the surrogates. -/
theorem pending?_three {n : Nat} (hlow : 0x800 ≤ n) (hhigh : n < 0x10000)
    (hn : n < 0xD800 ∨ 0xDFFF < n) (pos : Nat) :
    ∃ p, pending? pos (UInt8.ofNat (0xE0 + n / 4096)) = some p ∧ p.owed = 1 ∧
      p.bits = n / 64 / 64 ∧ p.Admits (n / 64) := by
  have hb : (UInt8.ofNat (0xE0 + n / 4096)).toNat = 0xE0 + n / 4096 := toNat_ofNat (by omega)
  unfold pending?
  simp only [hb, Pending.Admits]
  split
  · omega
  split
  · refine ⟨_, rfl, rfl, ?_, ?_, ?_⟩ <;> dsimp only <;> omega
  split
  · refine ⟨_, rfl, rfl, ?_, ?_, ?_⟩ <;> dsimp only <;> omega
  split
  · refine ⟨_, rfl, rfl, ?_, ?_, ?_⟩ <;> dsimp only <;> omega
  · omega

/-- The lead of a character of four octets; the octet behind it keeps out what three octets spell and
what lies beyond the last character. -/
theorem pending?_four {n : Nat} (hlow : 0x10000 ≤ n) (hhigh : n < 0x110000) (pos : Nat) :
    ∃ p, pending? pos (UInt8.ofNat (0xF0 + n / 262144)) = some p ∧ p.owed = 2 ∧
      p.bits = n / 4096 / 64 ∧ p.Admits (n / 4096) := by
  have hb : (UInt8.ofNat (0xF0 + n / 262144)).toNat = 0xF0 + n / 262144 := toNat_ofNat (by omega)
  unfold pending?
  simp only [hb, Pending.Admits]
  iterate 4 rw [if_neg (by omega)]
  split
  · refine ⟨_, rfl, rfl, ?_, ?_, ?_⟩ <;> dsimp only <;> omega
  split
  · refine ⟨_, rfl, rfl, ?_, ?_, ?_⟩ <;> dsimp only <;> omega
  split
  · refine ⟨_, rfl, rfl, ?_, ?_, ?_⟩ <;> dsimp only <;> omega
  · omega

/-- The machine reads back one encoded character and stands between characters again. -/
theorem run_encodeChar (c : Char) (pos : Nat) (rest : Bytes) :
    run none pos (encodeChar c ++ rest) =
      (run none (pos + (encodeChar c).length) rest).map (c :: ·) := by
  have hvalid := toNat_valid c
  have hc : Char.ofNat c.toNat = c := Char.ofNat_toNat c
  unfold encodeChar
  generalize c.toNat = n at hvalid hc
  dsimp only
  split
  · next h =>
    have hb : (UInt8.ofNat n).toNat = n := toNat_ofNat (by omega)
    rw [List.singleton_append, run, hb, if_pos h, hc]
    rfl
  split
  · next hlow hhigh =>
    obtain ⟨p, hp, howed, hbits, hn⟩ := pending?_two (by omega) hhigh pos
    have hb : (UInt8.ofNat (0xC0 + n / 64)).toNat = 0xC0 + n / 64 := toNat_ofNat (by omega)
    simp only [List.cons_append, List.nil_append]
    rw [run_lead (by omega) hp, run_last howed hbits hn, hc]
    rfl
  split
  · next hlow hhigh =>
    obtain ⟨p, hp, howed, hbits, hn⟩ := pending?_three (by omega) hhigh (by omega) pos
    have hb : (UInt8.ofNat (0xE0 + n / 4096)).toNat = 0xE0 + n / 4096 := toNat_ofNat (by omega)
    simp only [List.cons_append, List.nil_append]
    rw [run_lead (by omega) hp, run_more howed hbits hn, run_last rfl rfl (admits_any _ _ _ _ _), hc]
    rfl
  · next hlow =>
    obtain ⟨p, hp, howed, hbits, hn⟩ := pending?_four (n := n) (by omega) (by omega) pos
    have hb : (UInt8.ofNat (0xF0 + n / 262144)).toNat = 0xF0 + n / 262144 := toNat_ofNat (by omega)
    have htwelve : n / 4096 = n / 64 / 64 := by omega
    simp only [List.cons_append, List.nil_append]
    rw [run_lead (by omega) hp, run_more howed hbits hn,
      run_more rfl htwelve (admits_any _ _ _ _ _), run_last rfl rfl (admits_any _ _ _ _ _), hc]
    rfl

theorem run_encode (cs : List Char) (pos : Nat) : run none pos (encode cs) = .ok cs := by
  induction cs generalizing pos with
  | nil => rfl
  | cons c cs ih =>
    show run none pos (encodeChar c ++ encode cs) = _
    rw [run_encodeChar, ih]
    rfl

/-- The octets of a row of characters spell the row. -/
theorem decode_encode (cs : List Char) : decode (encode cs) = .ok cs := run_encode cs 0

theorem dropMark_mark (bytes : Bytes) : dropMark (mark ++ bytes) = bytes := rfl

end Utf8

/-! ### UTF-16 -/

namespace Utf16

variable (order : Order)

theorem isHigh_iff {unit : Nat} : isHigh unit = true ↔ 0xD800 ≤ unit ∧ unit < 0xDC00 := by
  simp [isHigh]

theorem isLow_iff {unit : Nat} : isLow unit = true ↔ 0xDC00 ≤ unit ∧ unit < 0xE000 := by
  simp [isLow]

/-- A unit is two octets, and the two spell it. -/
theorem octets_eq {unit : Nat} (h : unit < 0x10000) :
    ∃ a b, order.octets unit = [a, b] ∧ order.unit a b = unit := by
  have hlow : (UInt8.ofNat (unit % 256)).toNat = unit % 256 := toNat_ofNat (by omega)
  have hhigh : (UInt8.ofNat (unit / 256)).toNat = unit / 256 := toNat_ofNat (by omega)
  cases order with
  | little =>
    refine ⟨_, _, rfl, ?_⟩
    show (UInt8.ofNat (unit / 256)).toNat * 256 + (UInt8.ofNat (unit % 256)).toNat = unit
    omega
  | big =>
    refine ⟨_, _, rfl, ?_⟩
    show (UInt8.ofNat (unit / 256)).toNat * 256 + (UInt8.ofNat (unit % 256)).toNat = unit
    omega

/-- A unit that is no surrogate is a character. -/
theorem decodeFrom_unit {unit : Nat} (h : unit < 0xD800 ∨ 0xDFFF < unit) (hunit : unit < 0x10000)
    (pos : Nat) (rest : Bytes) :
    decodeFrom order pos (order.octets unit ++ rest) =
      (decodeFrom order (pos + 2) rest).map (Char.ofNat unit :: ·) := by
  obtain ⟨a, b, hoctets, hab⟩ := octets_eq order hunit
  have hlow : ¬isLow unit = true := by rw [isLow_iff]; omega
  have hhigh : ¬isHigh unit = true := by rw [isHigh_iff]; omega
  rw [hoctets, List.cons_append, List.singleton_append, decodeFrom.eq_def]
  simp only [hab, hlow, hhigh, Bool.false_eq_true, if_false]

/-- A high surrogate and a low one are a character. -/
theorem decodeFrom_pair {high low : Nat} (hhigh : 0xD800 ≤ high ∧ high < 0xDC00)
    (hlow : 0xDC00 ≤ low ∧ low < 0xE000) (pos : Nat) (rest : Bytes) :
    decodeFrom order pos (order.octets high ++ order.octets low ++ rest) =
      (decodeFrom order (pos + 4) rest).map (Char.ofNat (paired high low) :: ·) := by
  have hunit : high < 0x10000 ∧ low < 0x10000 := by omega
  obtain ⟨a, b, hoctets, hab⟩ := octets_eq order hunit.1
  obtain ⟨c, d, hoctets', hcd⟩ := octets_eq order hunit.2
  have hnot : ¬isLow high = true := by rw [isLow_iff]; omega
  have hfirst : isHigh high = true := isHigh_iff.mpr hhigh
  have hsecond : isLow low = true := isLow_iff.mpr hlow
  rw [hoctets, hoctets']
  simp only [List.cons_append, List.nil_append]
  rw [decodeFrom.eq_def]
  simp only [hab, hcd, hnot, hfirst, hsecond, Bool.false_eq_true, if_false, if_true]

/-- Reading back one encoded character. -/
theorem decodeFrom_encodeChar (c : Char) (pos : Nat) (rest : Bytes) :
    ∃ next, decodeFrom order pos (encodeChar order c ++ rest) =
      (decodeFrom order next rest).map (c :: ·) := by
  have hvalid := toNat_valid c
  have hc : Char.ofNat c.toNat = c := Char.ofNat_toNat c
  unfold encodeChar
  generalize c.toNat = n at hvalid hc
  dsimp only
  split
  · next h =>
    refine ⟨pos + 2, ?_⟩
    rw [decodeFrom_unit order (by omega) h, hc]
  · next h =>
    have hpaired : paired (0xD800 + (n - 0x10000) / 0x400) (0xDC00 + (n - 0x10000) % 0x400) = n := by
      unfold paired
      omega
    refine ⟨pos + 4, ?_⟩
    rw [decodeFrom_pair order (by omega) (by omega), hpaired, hc]

theorem decodeFrom_encode (cs : List Char) (pos : Nat) :
    decodeFrom order pos (encode order cs) = .ok cs := by
  induction cs generalizing pos with
  | nil => rfl
  | cons c cs ih =>
    obtain ⟨next, hnext⟩ := decodeFrom_encodeChar order c pos (encode order cs)
    show decodeFrom order pos (encodeChar order c ++ encode order cs) = _
    rw [hnext, ih]
    rfl

/-- A mark in front is dropped again. -/
theorem decodeMarked_encodeMarked (cs : List Char) : decodeMarked (encodeMarked cs) = .ok cs := by
  rw [encodeMarked, decodeMarked, decodeFrom_encode]

end Utf16

/-! ### All of them -/

/-- In a Unicode charset, the octets of a row of characters spell the row. -/
theorem decode_encode {c : Charset} (h : c.isUnicode = true) {cs : List Char} {bytes : Bytes}
    (hb : c.encode cs = .ok bytes) : c.decode bytes = .ok cs := by
  cases c with
  | utf8 =>
    obtain rfl := Except.ok.inj hb
    exact Utf8.decode_encode cs
  | utf8Marked =>
    obtain rfl := Except.ok.inj hb
    show Utf8.decode (Utf8.dropMark (Utf8.mark ++ Utf8.encode cs)) = _
    rw [Utf8.dropMark_mark, Utf8.decode_encode]
  | utf16 =>
    obtain rfl := Except.ok.inj hb
    exact Utf16.decodeMarked_encodeMarked cs
  | utf16le =>
    obtain rfl := Except.ok.inj hb
    exact Utf16.decodeFrom_encode .little cs 0
  | utf16be =>
    obtain rfl := Except.ok.inj hb
    exact Utf16.decodeFrom_encode .big cs 0
  | latin1 => cases h
  | ascii => cases h
  | windows1252 => cases h

end DeviceRelay.Charset
