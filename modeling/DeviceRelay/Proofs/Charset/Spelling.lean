import DeviceRelay.Proofs.Charset.Repertoire
import Mathlib.Algebra.Group.Nat.Defs
import Mathlib.Data.List.Forall2

/-!
# What octets spell

A text has its octets in a charset, with a mark in front or without, and octets that no text has are refused:

    decode bytes = ok cs  ↔  Spells bytes cs

One direction is that decoding undoes encoding. For the other one the machine of UTF-8 is followed octet by octet:
whatever completes a character under way is the end of its encoding (`Utf8.Pending.Began`), so that behind the last
octet nothing but the encoding of a text has been read.

* `Utf8.decode_eq_ok_iff`, `Utf16.decodeFrom_eq_ok_iff`, `SingleByte.decodeFrom_eq_ok_iff` — without marks.
* `Charset.decode_eq_ok_iff` — all charsets.
-/

namespace DeviceRelay.Charset

theorem charToNat_ofNat {n : Nat} (h : n.isValidChar) : (Char.ofNat n).toNat = n := by
  rw [Char.ofNat, dif_pos h]
  rfl

/-! ### UTF-8 -/

namespace Utf8

/-- The last octets of a character of that number. -/
def tails (n : Nat) : Nat → Bytes
  | 0 => []
  | count + 1 => tail (n / 64 ^ count) :: tails n count

/-- The octets are the beginning of a character: any number that the machine can gather from here on is that of a
character, and its encoding goes on behind them. -/
structure Pending.Began (p : Pending) (front : Bytes) : Prop where
  le_low : 0x80 ≤ p.low
  high_le : p.high ≤ 0xBF
  spells : ∀ n, n / 64 ^ (p.owed + 1) = p.bits → p.Admits (n / 64 ^ p.owed) →
    encodeChar (Char.ofNat n) = front ++ tails n (p.owed + 1)

theorem encodeChar_one {b : UInt8} (h : b.toNat < 0x80) : encodeChar (Char.ofNat b.toNat) = [b] := by
  simp [encodeChar, charToNat_ofNat (.inl (show b.toNat < 0xD800 by omega)), h]

theorem encodeChar_two {n : Nat} (hlow : 0x80 ≤ n) (hhigh : n < 0x800) :
    encodeChar (Char.ofNat n) = UInt8.ofNat (0xC0 + n / 64) :: tails n 1 := by
  rw [encodeChar, charToNat_ofNat (.inl (by omega))]
  rw [if_neg (by omega), if_pos hhigh]
  simp [tails]

theorem encodeChar_three {n : Nat} (hn : n.isValidChar) (hlow : 0x800 ≤ n) (hhigh : n < 0x10000) :
    encodeChar (Char.ofNat n) = UInt8.ofNat (0xE0 + n / 4096) :: tails n 2 := by
  rw [encodeChar, charToNat_ofNat hn]
  rw [if_neg (by omega), if_neg (by omega), if_pos hhigh]
  simp [tails]

theorem encodeChar_four {n : Nat} (hlow : 0x10000 ≤ n) (hhigh : n < 0x110000) :
    encodeChar (Char.ofNat n) = UInt8.ofNat (0xF0 + n / 262144) :: tails n 3 := by
  rw [encodeChar, charToNat_ofNat (.inr (by omega))]
  rw [if_neg (by omega), if_neg (by omega), if_neg (by omega)]
  simp [tails]

section Lead

variable {p : Pending} {lead : Nat} (hlow : 0x80 ≤ p.low) (hhigh : p.high ≤ 0xBF)

include hlow hhigh

theorem began_two (howed : p.owed = 0) (hlead : lead = 0xC0 + p.bits) (hbits : 2 ≤ p.bits ∧ p.bits < 32) :
    p.Began [UInt8.ofNat lead] := by
  refine ⟨hlow, hhigh, fun n hn _ => ?_⟩
  rw [howed] at hn ⊢
  simp only [Nat.reduceAdd, Nat.reducePow] at hn
  rw [encodeChar_two (by omega) (by omega), hn, hlead]
  rfl

/-- The range behind the lead octet keeps out what two octets spell, and the surrogates. -/
theorem began_three (howed : p.owed = 1) (hlead : lead = 0xE0 + p.bits) (hbits : p.bits < 16)
    (hlong : p.bits = 0 → 0xA0 ≤ p.low) (hplain : p.bits = 13 → p.high ≤ 0x9F) : p.Began [UInt8.ofNat lead] := by
  refine ⟨hlow, hhigh, fun n hn hadmits => ?_⟩
  rw [howed] at hn hadmits ⊢
  simp only [Pending.Admits, Nat.reduceAdd, Nat.reducePow] at hn hadmits
  have hvalid : n.isValidChar := by
    unfold Nat.isValidChar
    omega
  rw [encodeChar_three hvalid (by omega) (by omega), hn, hlead]
  rfl

/-- The range behind the lead octet keeps out what three octets spell, and what lies beyond the last character. -/
theorem began_four (howed : p.owed = 2) (hlead : lead = 0xF0 + p.bits) (hbits : p.bits ≤ 4)
    (hlong : p.bits = 0 → 0x90 ≤ p.low) (hlast : p.bits = 4 → p.high ≤ 0x8F) : p.Began [UInt8.ofNat lead] := by
  refine ⟨hlow, hhigh, fun n hn hadmits => ?_⟩
  rw [howed] at hn hadmits ⊢
  simp only [Pending.Admits, Nat.reduceAdd, Nat.reducePow] at hn hadmits
  rw [encodeChar_four (by omega) (by omega), hn, hlead]
  rfl

end Lead

/-- A lead octet begins a character. -/
theorem began_of_pending? {b : UInt8} {p : Pending} {pos : Nat} (h : pending? pos b = some p) : p.Began [b] := by
  rw [← UInt8.ofNat_toNat (x := b)]
  unfold pending? at h
  dsimp only at h
  generalize b.toNat = lead at h ⊢
  split at h
  · cases h
    apply began_two <;> dsimp only <;> omega
  iterate 3
    split at h
    · cases h
      apply began_three <;> dsimp only <;> omega
  iterate 3
    split at h
    · cases h
      apply began_four <;> dsimp only <;> omega
  cases h

/-- The octets that the machine stands behind. -/
def Began : Option Pending → Bytes → Prop
  | none, front => front = []
  | some p, front => p.Began front

/-- An octet in the range that is due is the next one of the encoding. -/
theorem eq_tail_of_range {p : Pending} {front : Bytes} (h : p.Began front) {b : UInt8}
    (hb : p.low ≤ b.toNat ∧ b.toNat ≤ p.high) :
    b = tail (p.bits * 64 + (b.toNat - 0x80)) ∧ p.Admits (p.bits * 64 + (b.toNat - 0x80)) ∧
      (p.bits * 64 + (b.toNat - 0x80)) / 64 = p.bits := by
  have hlow := h.le_low
  have hhigh := h.high_le
  refine ⟨?_, ?_, by omega⟩
  · rw [tail, show 0x80 + (p.bits * 64 + (b.toNat - 0x80)) % 64 = b.toNat by omega, UInt8.ofNat_toNat]
  · unfold Pending.Admits
    omega

/-- The last octet completes the character. -/
theorem encodeChar_of_last {p : Pending} {front : Bytes} (h : p.Began front) (howed : p.owed = 0) {b : UInt8}
    (hb : p.low ≤ b.toNat ∧ b.toNat ≤ p.high) :
    encodeChar (Char.ofNat (p.bits * 64 + (b.toNat - 0x80))) = front ++ [b] := by
  obtain ⟨htail, hadmits, hbits⟩ := eq_tail_of_range h hb
  have hspells := h.spells (p.bits * 64 + (b.toNat - 0x80))
  rw [howed] at hspells
  rw [hspells (by simpa using hbits) (by simpa using hadmits)]
  simp [tails, ← htail]

/-- Any other octet leaves the machine inside the character. -/
theorem began_of_more {p : Pending} {front : Bytes} (h : p.Began front) {owed : Nat} (howed : p.owed = owed + 1)
    {b : UInt8} (hb : p.low ≤ b.toNat ∧ b.toNat ≤ p.high) :
    Pending.Began { p with owed := owed, low := 0x80, high := 0xBF, bits := p.bits * 64 + (b.toNat - 0x80) }
      (front ++ [b]) := by
  obtain ⟨htail, hadmits, hbits⟩ := eq_tail_of_range h hb
  refine ⟨Nat.le_refl _, Nat.le_refl _, fun n hn _ => ?_⟩
  dsimp only at hn ⊢
  have hspells := h.spells n
  rw [howed] at hspells
  rw [hspells (by rw [Nat.pow_succ, ← Nat.div_div_eq_div_mul, hn, hbits]) (by rw [hn]; exact hadmits), tails, hn, ← htail]
  simp

theorem encode_cons (c : Char) (cs : List Char) : encode (c :: cs) = encodeChar c ++ encode cs := rfl

/-- Behind the octets of a text, nothing is under way and nothing else has been read. -/
theorem encode_of_run {state : Option Pending} {pos : Nat} {bytes : Bytes} {cs : List Char}
    (h : run state pos bytes = .ok cs) {front : Bytes} (hfront : Began state front) : front ++ bytes = encode cs := by
  fun_induction run state pos bytes generalizing cs front with
  | case1 pos =>
    obtain rfl := Except.ok.inj h
    rw [show front = [] from hfront]
    rfl
  | case2 pos p => cases h
  | case3 pos b rest hb ih =>
    obtain ⟨more, hmore, rfl⟩ := map_eq_ok.mp h
    rw [show front = [] from hfront, encode_cons, encodeChar_one hb]
    exact congrArg (b :: ·) (ih hmore rfl)
  | case4 pos b rest hb p hp ih =>
    have hbegan : Began (some p) [b] := began_of_pending? hp
    rw [show front = [] from hfront]
    exact ih h hbegan
  | case5 pos b rest hb hp => cases h
  | case6 p pos b rest hb bits howed =>
    rename_i ih
    obtain ⟨more, hmore, rfl⟩ := map_eq_ok.mp h
    rw [encode_cons, encodeChar_of_last hfront howed hb, List.append_assoc]
    exact congrArg (fun rest => front ++ b :: rest) (ih hmore rfl)
  | case7 p pos b rest hb bits owed howed =>
    rename_i ih
    have hmore := ih h (began_of_more hfront howed hb :)
    rw [← hmore, List.append_assoc]
    rfl
  | case8 p pos b rest hb => cases h

/-- The octets of a text, and no others, spell it. -/
theorem decode_eq_ok_iff {bytes : Bytes} {cs : List Char} : decode bytes = .ok cs ↔ bytes = encode cs := by
  constructor
  · intro h
    have hbegan : Began none [] := rfl
    exact encode_of_run h hbegan
  · rintro rfl
    exact decode_encode cs

theorem head?_eq_iff {c : Char} {cs : List Char} :
    cs.head? = some c ↔ ∃ rest, encode cs = encodeChar c ++ rest := by
  constructor
  · intro h
    obtain ⟨rest, rfl⟩ := List.head?_eq_some_iff.mp h
    exact ⟨encode rest, rfl⟩
  · rintro ⟨rest, h⟩
    have hdecode := decode_encode cs
    rw [h, decode, run_encodeChar] at hdecode
    obtain ⟨more, -, rfl⟩ := map_eq_ok.mp hdecode
    rfl

theorem mark_eq : mark = encodeChar '\ufeff' := by decide

theorem dropMark_of_unmarked {bytes : Bytes} (h : ∀ rest, bytes ≠ mark ++ rest) : dropMark bytes = bytes := by
  unfold dropMark
  split
  · next rest => exact absurd rfl (h rest)
  · rfl

/-- The octets of a text spell it behind a mark, and without one unless the text itself begins with the mark. -/
theorem decode_dropMark_eq_ok_iff {bytes : Bytes} {cs : List Char} :
    decode (dropMark bytes) = .ok cs ↔
      bytes = mark ++ encode cs ∨ (bytes = encode cs ∧ cs.head? ≠ some '\ufeff') := by
  rw [Ne, head?_eq_iff, ← mark_eq]
  by_cases hmark : ∃ rest, bytes = mark ++ rest
  · obtain ⟨rest, rfl⟩ := hmark
    rw [dropMark_mark, decode_eq_ok_iff, List.append_cancel_left_eq]
    constructor
    · exact .inl
    · rintro (h | ⟨h, hplain⟩)
      · exact h
      · exact absurd ⟨rest, h.symm⟩ hplain
  · have hunmarked := not_exists.mp hmark
    rw [dropMark_of_unmarked hunmarked, decode_eq_ok_iff]
    constructor
    · rintro rfl
      exact .inr ⟨rfl, not_exists.mpr hunmarked⟩
    · rintro (h | ⟨h, -⟩)
      · exact absurd h (hunmarked _)
      · exact h

end Utf8

/-! ### UTF-16 -/

namespace Utf16

variable {order : Order}

theorem octets_unit (a b : UInt8) : order.octets (order.unit a b) = [a, b] := by
  have ha := a.toNat_lt
  have hb := b.toNat_lt
  cases order with
  | little =>
    simp only [Order.octets, Order.unit]
    rw [show (b.toNat * 256 + a.toNat) % 256 = a.toNat by omega,
      show (b.toNat * 256 + a.toNat) / 256 = b.toNat by omega, UInt8.ofNat_toNat, UInt8.ofNat_toNat]
  | big =>
    simp only [Order.octets, Order.unit]
    rw [show (a.toNat * 256 + b.toNat) % 256 = b.toNat by omega,
      show (a.toNat * 256 + b.toNat) / 256 = a.toNat by omega, UInt8.ofNat_toNat, UInt8.ofNat_toNat]

theorem unit_lt (order : Order) (a b : UInt8) : order.unit a b < 0x10000 := by
  have ha := a.toNat_lt
  have hb := b.toNat_lt
  cases order <;> simp only [Order.unit] <;> omega

/-- A unit that is no surrogate is a character. -/
theorem encodeChar_unit {a b : UInt8} (hlow : ¬isLow (order.unit a b) = true) (hhigh : ¬isHigh (order.unit a b) = true) :
    encodeChar order (Char.ofNat (order.unit a b)) = [a, b] := by
  have hunit := unit_lt order a b
  rw [isLow_iff] at hlow
  rw [isHigh_iff] at hhigh
  rw [encodeChar, charToNat_ofNat (by unfold Nat.isValidChar; omega), if_pos hunit, octets_unit]

/-- A high surrogate and a low one are a character. -/
theorem encodeChar_pair {a b c d : UInt8} (hhigh : isHigh (order.unit a b) = true)
    (hlow : isLow (order.unit c d) = true) :
    encodeChar order (Char.ofNat (paired (order.unit a b) (order.unit c d))) = [a, b, c, d] := by
  rw [isHigh_iff] at hhigh
  rw [isLow_iff] at hlow
  have hpaired : paired (order.unit a b) (order.unit c d) =
      0x10000 + (order.unit a b - 0xD800) * 0x400 + (order.unit c d - 0xDC00) := rfl
  rw [encodeChar, charToNat_ofNat (by unfold Nat.isValidChar; omega), if_neg (by omega),
    show 0xD800 + (paired (order.unit a b) (order.unit c d) - 0x10000) / 0x400 = order.unit a b by omega,
    show 0xDC00 + (paired (order.unit a b) (order.unit c d) - 0x10000) % 0x400 = order.unit c d by omega,
    octets_unit, octets_unit]
  rfl

theorem encode_of_decodeFrom {pos : Nat} {bytes : Bytes} {cs : List Char} (h : decodeFrom order pos bytes = .ok cs) :
    bytes = encode order cs := by
  fun_induction decodeFrom order pos bytes generalizing cs with
  | case1 pos =>
    obtain rfl := Except.ok.inj h
    rfl
  | case2 => cases h
  | case3 => cases h
  | case4 pos a b unit hlow hhigh c d rest hpair =>
    rename_i ih
    obtain ⟨more, hmore, rfl⟩ := map_eq_ok.mp h
    rw [encode, List.flatMap_cons, encodeChar_pair hhigh hpair, ih hmore]
    rfl
  | case5 => cases h
  | case6 => cases h
  | case7 pos a b rest unit hlow hhigh =>
    rename_i ih
    obtain ⟨more, hmore, rfl⟩ := map_eq_ok.mp h
    rw [encode, List.flatMap_cons, encodeChar_unit hlow hhigh, ih hmore]
    rfl

theorem decodeFrom_eq_ok_iff {pos : Nat} {bytes : Bytes} {cs : List Char} :
    decodeFrom order pos bytes = .ok cs ↔ bytes = encode order cs := by
  constructor
  · exact encode_of_decodeFrom
  · rintro rfl
    exact decodeFrom_encode order cs pos

theorem head?_eq_iff (order : Order) {c : Char} {cs : List Char} :
    cs.head? = some c ↔ ∃ rest, encode order cs = encodeChar order c ++ rest := by
  constructor
  · intro h
    obtain ⟨rest, rfl⟩ := List.head?_eq_some_iff.mp h
    exact ⟨encode order rest, rfl⟩
  · rintro ⟨rest, h⟩
    obtain ⟨next, hnext⟩ := decodeFrom_encodeChar order c 0 rest
    have hdecode := decodeFrom_encode order cs 0
    rw [h, hnext] at hdecode
    obtain ⟨more, -, rfl⟩ := map_eq_ok.mp hdecode
    rfl

/-- Either order may be named by a mark. Without one the octets are taken little end first, and must not look like a
mark. -/
theorem decodeMarked_eq_ok_iff {bytes : Bytes} {cs : List Char} :
    decodeMarked bytes = .ok cs ↔
      bytes = 0xFF :: 0xFE :: encode .little cs ∨ bytes = 0xFE :: 0xFF :: encode .big cs ∨
        (bytes = encode .little cs ∧ cs.head? ≠ some '\ufeff' ∧ cs.head? ≠ some '\ufffe') := by
  have hmark : encodeChar .little '\ufeff' = [0xFF, 0xFE] := by decide
  have hswapped : encodeChar .little '\ufffe' = [0xFE, 0xFF] := by decide
  simp only [Ne, head?_eq_iff .little, hmark, hswapped]
  fun_cases decodeMarked bytes with
  | case1 rest =>
    rw [decodeFrom_eq_ok_iff]
    constructor
    · rintro rfl
      exact .inl rfl
    · rintro (h | h | ⟨h, hplain, -⟩)
      · exact (List.cons.inj (List.cons.inj h).2).2
      · cases h
      · exact absurd ⟨rest, h.symm⟩ hplain
  | case2 rest =>
    rw [decodeFrom_eq_ok_iff]
    constructor
    · rintro rfl
      exact .inr (.inl rfl)
    · rintro (h | h | ⟨h, -, hplain⟩)
      · cases h
      · exact (List.cons.inj (List.cons.inj h).2).2
      · exact absurd ⟨rest, h.symm⟩ hplain
  | case3 =>
    rename_i hlittle hbig
    rw [decodeFrom_eq_ok_iff]
    constructor
    · rintro rfl
      refine .inr (.inr ⟨rfl, ?_, ?_⟩)
      · rintro ⟨rest, h⟩
        exact hlittle rest h
      · rintro ⟨rest, h⟩
        exact hbig rest h
    · rintro (h | h | ⟨h, -⟩)
      · exact absurd h (hlittle _)
      · exact absurd h (hbig _)
      · exact h

end Utf16

/-! ### Tables -/

namespace SingleByte

theorem decodeFrom_eq_ok_iff {t : Table} {pos : Nat} {bytes : Bytes} {cs : List Char} :
    decodeFrom t pos bytes = .ok cs ↔ List.Forall₂ (fun b c => t.char? b = some c) bytes cs := by
  induction bytes generalizing pos cs with
  | nil => simp [decodeFrom, eq_comm]
  | cons b rest ih =>
    rw [decodeFrom, List.forall₂_cons_left_iff]
    cases hb : t.char? b with
    | none => simp
    | some c => simp [map_eq_ok, ih, eq_comm (a := cs)]

end SingleByte

/-! ### All charsets -/

/-- The octets spell the text in a charset: they are its encoding, in some charsets with a mark or without one. -/
inductive Spells : Charset → Bytes → List Char → Prop
  | utf8 (cs : List Char) : Spells .utf8 (Utf8.encode cs) cs
  | marked (cs : List Char) : Spells .utf8Marked (Utf8.mark ++ Utf8.encode cs) cs
  | unmarked {cs : List Char} (h : cs.head? ≠ some '\ufeff') : Spells .utf8Marked (Utf8.encode cs) cs
  | littleMarked (cs : List Char) : Spells .utf16 (0xFF :: 0xFE :: Utf16.encode .little cs) cs
  | bigMarked (cs : List Char) : Spells .utf16 (0xFE :: 0xFF :: Utf16.encode .big cs) cs
  | littleUnmarked {cs : List Char} (h : cs.head? ≠ some '\ufeff') (hswapped : cs.head? ≠ some '\ufffe') :
    Spells .utf16 (Utf16.encode .little cs) cs
  | little (cs : List Char) : Spells .utf16le (Utf16.encode .little cs) cs
  | big (cs : List Char) : Spells .utf16be (Utf16.encode .big cs) cs
  | table {c : Charset} {t : SingleByte.Table} (ht : c.table? = some t) {bytes : Bytes} {cs : List Char}
    (h : List.Forall₂ (fun b ch => t.char? b = some ch) bytes cs) : Spells c bytes cs

/-- Octets are decoded exactly if they spell a text, and as that one. -/
theorem decode_eq_ok_iff {c : Charset} {bytes : Bytes} {cs : List Char} :
    c.decode bytes = .ok cs ↔ c.Spells bytes cs := by
  constructor
  · intro h
    cases c with
    | utf8 =>
      obtain rfl := Utf8.decode_eq_ok_iff.mp h
      exact .utf8 cs
    | utf8Marked =>
      rcases Utf8.decode_dropMark_eq_ok_iff.mp h with rfl | ⟨rfl, hplain⟩
      · exact .marked cs
      · exact .unmarked hplain
    | utf16 =>
      rcases Utf16.decodeMarked_eq_ok_iff.mp h with rfl | rfl | ⟨rfl, hplain, hswapped⟩
      · exact .littleMarked cs
      · exact .bigMarked cs
      · exact .littleUnmarked hplain hswapped
    | utf16le =>
      obtain rfl := Utf16.decodeFrom_eq_ok_iff.mp h
      exact .little cs
    | utf16be =>
      obtain rfl := Utf16.decodeFrom_eq_ok_iff.mp h
      exact .big cs
    | latin1 => exact .table rfl (SingleByte.decodeFrom_eq_ok_iff.mp h)
    | ascii => exact .table rfl (SingleByte.decodeFrom_eq_ok_iff.mp h)
    | windows1252 => exact .table rfl (SingleByte.decodeFrom_eq_ok_iff.mp h)
  · intro h
    cases h with
    | utf8 => exact Utf8.decode_encode cs
    | marked => exact Utf8.decode_dropMark_eq_ok_iff.mpr (.inl rfl)
    | unmarked hplain => exact Utf8.decode_dropMark_eq_ok_iff.mpr (.inr ⟨rfl, hplain⟩)
    | littleMarked => exact Utf16.decodeMarked_eq_ok_iff.mpr (.inl rfl)
    | bigMarked => exact Utf16.decodeMarked_eq_ok_iff.mpr (.inr (.inl rfl))
    | littleUnmarked hplain hswapped =>
      exact Utf16.decodeMarked_eq_ok_iff.mpr (.inr (.inr ⟨rfl, hplain, hswapped⟩))
    | little => exact Utf16.decodeFrom_encode .little cs 0
    | big => exact Utf16.decodeFrom_encode .big cs 0
    | table ht h =>
      rw [decode_of_table ht]
      exact SingleByte.decodeFrom_eq_ok_iff.mpr h

end DeviceRelay.Charset
