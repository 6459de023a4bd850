import DeviceRelay.Proofs.Charset
import DeviceRelay.Proofs.Checked

/-!
# What a charset has octets for

A charset has the characters that some octets spell in it. What octets spell is made of such characters, and so are the
texts that have octets:

    Bytes ──decode──▶ characters that the charset has ──encode──▶ Bytes ──decode──▶ the same characters

A Unicode charset has all characters, and a charset of one octet per character those of its table, whose two columns
agree.

* `SingleByte.Table.Agrees` — the columns of a table, and `Charset.agrees_of_table` for the three that there are.
* `Charset.encode_isOk_iff` — the texts that have octets.
* `Charset.decode_of_encode` — decoding undoes encoding, in every charset.
-/

namespace DeviceRelay.Charset

/-! ### Tables -/

namespace SingleByte

/-- An octet stands for a character exactly if the character is written as the octet. -/
def Table.Agrees (t : Table) : Prop := ∀ b c, t.octet? c = some b ↔ t.char? b = some c

theorem ofNat_eq_iff_toNat {n : Nat} (h : n < 256) {b : UInt8} : UInt8.ofNat n = b ↔ b.toNat = n := by
  constructor
  · rintro rfl
    exact toNat_ofNat h
  · rintro rfl
    exact UInt8.ofNat_toNat

theorem charOfNat_eq_iff_toNat {n : Nat} (h : n < 0xD800) {c : Char} : Char.ofNat n = c ↔ c.toNat = n := by
  constructor
  · rintro rfl
    rw [Char.ofNat, dif_pos (Or.inl h)]
    rfl
  · rintro rfl
    exact Char.ofNat_toNat c

/-- What is written for a character and read for an octet below a limit are one number. -/
theorem agrees_of_numbers {t : Table} {limit : Nat} (hlimit : limit ≤ 256)
    (hchar : ∀ b, t.char? b = if b.toNat < limit then some (Char.ofNat b.toNat) else none)
    (hoctet : ∀ c, t.octet? c = if c.toNat < limit then some (UInt8.ofNat c.toNat) else none) : t.Agrees := by
  intro b c
  rw [hchar, hoctet, Option.ite_none_right_eq_some, Option.ite_none_right_eq_some, Option.some.injEq,
    Option.some.injEq]
  constructor
  · rintro ⟨hc, hb⟩
    have hb := (ofNat_eq_iff_toNat (by omega)).mp hb
    exact ⟨by omega, (charOfNat_eq_iff_toNat (by omega)).mpr hb.symm⟩
  · rintro ⟨hb, hc⟩
    have hc := (charOfNat_eq_iff_toNat (by omega)).mp hc
    exact ⟨by omega, (ofNat_eq_iff_toNat (by omega)).mpr hc.symm⟩

theorem agrees_ascii : ascii.Agrees :=
  agrees_of_numbers (by decide) (fun _ => rfl) (fun _ => rfl)

theorem agrees_latin1 : latin1.Agrees :=
  agrees_of_numbers (Nat.le_refl 256) (fun b => (if_pos b.toNat_lt).symm) (fun _ => rfl)

/-- The characters of the block lie behind all octets, and none stands there twice. -/
theorem windowsBlock_spec : ∀ i < 32, windowsBlock.getD i 0 ≠ 0 →
    (0x100 ≤ windowsBlock.getD i 0 ∧ windowsBlock.getD i 0 < 0xD800) ∧
      windowsBlock.findIdx? (· == windowsBlock.getD i 0) = some i := by
  decide +kernel

theorem octet?_windows1252 (c : Char) : windows1252.octet? c =
    if c.toNat < 0x80 ∨ (0xA0 ≤ c.toNat ∧ c.toNat < 0x100) then some (UInt8.ofNat c.toNat)
    else if c.toNat < 0x100 then none
    else (windowsBlock.findIdx? (· == c.toNat)).map fun i => UInt8.ofNat (0x80 + i) := rfl

/-- Outside the block, an octet stands for the character of its number. -/
theorem char?_windows1252_of_plain {b : UInt8} (h : b.toNat < 0x80 ∨ 0xA0 ≤ b.toNat) :
    windows1252.char? b = some (Char.ofNat b.toNat) := by
  simp only [windows1252, if_pos h]

/-- In the block, an octet stands for a character behind all octets, or for none. -/
theorem char?_windows1252_of_block {i : Nat} {b : UInt8} (hi : i < 32) (hb : b.toNat = 0x80 + i) :
    windows1252.char? b =
      if windowsBlock.getD i 0 = 0 then none else some (Char.ofNat (windowsBlock.getD i 0)) := by
  have hplain : ¬(b.toNat < 0x80 ∨ 0xA0 ≤ b.toNat) := by omega
  have hblock : b.toNat - 0x80 = i := by omega
  simp only [windows1252, if_neg hplain, hblock]
  split
  · next hnone => rw [if_pos hnone]
  · next hne => rw [if_neg hne]

theorem octet?_windows1252_of_plain {c : Char} (h : c.toNat < 0x80 ∨ 0xA0 ≤ c.toNat ∧ c.toNat < 0x100) :
    windows1252.octet? c = some (UInt8.ofNat c.toNat) := by
  rw [octet?_windows1252, if_pos h]

theorem octet?_windows1252_of_far {c : Char} (h : 0x100 ≤ c.toNat) :
    windows1252.octet? c = (windowsBlock.findIdx? (· == c.toNat)).map fun i => UInt8.ofNat (0x80 + i) := by
  rw [octet?_windows1252, if_neg (by omega), if_neg (by omega)]

theorem char?_of_octet?_windows1252 {b : UInt8} {c : Char} (h : windows1252.octet? c = some b) :
    windows1252.char? b = some c := by
  by_cases hplain : c.toNat < 0x80 ∨ 0xA0 ≤ c.toNat ∧ c.toNat < 0x100
  · rw [octet?_windows1252_of_plain hplain, Option.some.injEq, ofNat_eq_iff_toNat (by omega)] at h
    rw [char?_windows1252_of_plain (by omega), h, Char.ofNat_toNat]
  by_cases hfar : 0x100 ≤ c.toNat
  · -- the octet is the place where the search found the character
    rw [octet?_windows1252_of_far hfar] at h
    obtain ⟨i, hfound, hb⟩ := Option.map_eq_some_iff.mp h
    obtain ⟨hi, hcode, -⟩ := List.findIdx?_eq_some_iff_getElem.mp hfound
    have hi : i < 32 := hi
    have hcode : windowsBlock.getD i 0 = c.toNat := by
      rw [List.getD_eq_getElem?_getD, List.getElem?_eq_getElem hi]
      exact eq_of_beq hcode
    rw [char?_windows1252_of_block hi ((ofNat_eq_iff_toNat (by omega)).mp hb), hcode, if_neg (by omega),
      Char.ofNat_toNat]
  · -- a control of the block has no octet
    rw [octet?_windows1252, if_neg hplain, if_pos (by omega)] at h
    cases h

theorem octet?_of_char?_windows1252 {b : UInt8} {c : Char} (h : windows1252.char? b = some c) :
    windows1252.octet? c = some b := by
  have hb := b.toNat_lt
  by_cases hplain : b.toNat < 0x80 ∨ 0xA0 ≤ b.toNat
  · rw [char?_windows1252_of_plain hplain, Option.some.injEq, charOfNat_eq_iff_toNat (by omega)] at h
    rw [octet?_windows1252_of_plain (by omega), h, UInt8.ofNat_toNat]
  · -- the search for the character ends at its own place, as it stands at no other
    obtain ⟨i, hi⟩ : ∃ i, b.toNat = 0x80 + i := ⟨b.toNat - 0x80, by omega⟩
    rw [char?_windows1252_of_block (by omega) hi, Option.ite_none_left_eq_some, Option.some.injEq] at h
    obtain ⟨hne, h⟩ := h
    obtain ⟨⟨hlow, hhigh⟩, hfound⟩ := windowsBlock_spec i (by omega) hne
    have hc := (charOfNat_eq_iff_toNat hhigh).mp h
    rw [octet?_windows1252_of_far (by omega), hc, hfound, Option.map_some, Option.some.injEq,
      ofNat_eq_iff_toNat (by omega)]
    exact hi

theorem agrees_windows1252 : windows1252.Agrees :=
  fun _ _ => ⟨char?_of_octet?_windows1252, octet?_of_char?_windows1252⟩

/-! ### Texts in a table -/

variable {t : Table}

/-- A text has octets if each of its characters has one. -/
theorem encodeFrom_isOk_iff {pos : Nat} {cs : List Char} :
    (∃ bytes, encodeFrom t pos cs = .ok bytes) ↔ ∀ c ∈ cs, ∃ b, t.octet? c = some b := by
  induction cs generalizing pos with
  | nil => simp [encodeFrom]
  | cons c rest ih =>
    rw [encodeFrom, List.forall_mem_cons, ← @ih (pos + 1)]
    cases t.octet? c with
    | none => simp
    | some b => cases encodeFrom t (pos + 1) rest <;> simp [Except.map]

theorem decodeFrom_of_encodeFrom (h : t.Agrees) {cs : List Char} {bytes : Bytes} {pos pos' : Nat}
    (hbytes : encodeFrom t pos cs = .ok bytes) : decodeFrom t pos' bytes = .ok cs := by
  induction cs generalizing bytes pos pos' with
  | nil =>
    obtain rfl := Except.ok.inj hbytes
    rfl
  | cons c rest ih =>
    rw [encodeFrom] at hbytes
    split at hbytes
    · next b hb =>
      obtain ⟨more, hrest, rfl⟩ := map_eq_ok.mp hbytes
      rw [decodeFrom, (h b c).mp hb, ih hrest]
      rfl
    · cases hbytes

/-- An octet for each character of a row is what decoding asks for. -/
theorem octet?_of_decodeFrom (h : t.Agrees) {cs : List Char} {bytes : Bytes} {pos : Nat}
    (hbytes : decodeFrom t pos bytes = .ok cs) : ∀ c ∈ cs, ∃ b, t.octet? c = some b := by
  induction bytes generalizing cs pos with
  | nil =>
    obtain rfl := Except.ok.inj hbytes
    exact List.forall_mem_nil _
  | cons b rest ih =>
    rw [decodeFrom] at hbytes
    split at hbytes
    · next c hc =>
      obtain ⟨more, hrest, rfl⟩ := map_eq_ok.mp hbytes
      exact List.forall_mem_cons.mpr ⟨⟨b, (h b c).mpr hc⟩, ih hrest⟩
    · cases hbytes

end SingleByte

/-! ### All charsets -/

/-- The table of a charset of one octet per character. -/
def table? : Charset → Option SingleByte.Table
  | .latin1 => some SingleByte.latin1
  | .ascii => some SingleByte.ascii
  | .windows1252 => some SingleByte.windows1252
  | _ => none

variable {c : Charset} {t : SingleByte.Table}

theorem isUnicode_or_table (c : Charset) : c.isUnicode = true ∨ ∃ t, c.table? = some t := by
  cases c <;> first | exact .inl rfl | exact .inr ⟨_, rfl⟩

theorem agrees_of_table (h : c.table? = some t) : t.Agrees := by
  cases c <;> cases h
  · exact SingleByte.agrees_latin1
  · exact SingleByte.agrees_ascii
  · exact SingleByte.agrees_windows1252

theorem encode_of_table (h : c.table? = some t) (cs : List Char) : c.encode cs = SingleByte.encodeFrom t 0 cs := by
  cases c <;> cases h <;> rfl

theorem decode_of_table (h : c.table? = some t) (bytes : Bytes) :
    c.decode bytes = SingleByte.decodeFrom t 0 bytes := by
  cases c <;> cases h <;> rfl

/-- Each table begins with ASCII. -/
theorem octet?_of_ascii (h : c.table? = some t) {ch : Char} (hch : ch.toNat < 0x80) :
    ∃ b, t.octet? ch = some b := by
  cases c <;> cases h
  · exact ⟨_, if_pos (by omega)⟩
  · exact ⟨_, if_pos hch⟩
  · exact ⟨_, SingleByte.octet?_windows1252_of_plain (.inl hch)⟩

/-- A text of ASCII has the same octets in ASCII as in UTF-8. -/
theorem encodeFrom_ascii {cs : List Char} (h : ∀ ch ∈ cs, ch.toNat < 128) (pos : Nat) :
    SingleByte.encodeFrom SingleByte.ascii pos cs = .ok (Utf8.encode cs) := by
  induction cs generalizing pos with
  | nil => rfl
  | cons ch rest ih =>
    obtain ⟨hch, hrest⟩ := List.forall_mem_cons.mp h
    have hoctet : SingleByte.ascii.octet? ch = some (UInt8.ofNat ch.toNat) := if_pos hch
    have hencode : Utf8.encodeChar ch = [UInt8.ofNat ch.toNat] := if_pos hch
    rw [SingleByte.encodeFrom, hoctet, Utf8.encode, List.flatMap_cons, hencode]
    exact congrArg (Except.map _) (ih hrest (pos + 1))

/-- Some octets spell the character. -/
def Has (c : Charset) (ch : Char) : Prop := ∃ bytes, c.decode bytes = .ok [ch]

theorem has_of_isUnicode (h : c.isUnicode = true) (ch : Char) : c.Has ch := by
  obtain ⟨bytes, hbytes⟩ := encode_isOk_of_isUnicode h [ch]
  exact ⟨bytes, decode_encode h hbytes⟩

theorem has_iff_of_table (h : c.table? = some t) {ch : Char} : c.Has ch ↔ ∃ b, t.octet? ch = some b := by
  have hagrees := agrees_of_table h
  constructor
  · rintro ⟨bytes, hbytes⟩
    rw [decode_of_table h] at hbytes
    exact SingleByte.octet?_of_decodeFrom hagrees hbytes ch (List.mem_singleton_self ch)
  · rintro ⟨b, hb⟩
    refine ⟨[b], ?_⟩
    rw [decode_of_table h, SingleByte.decodeFrom, (hagrees b ch).mp hb]
    rfl

/-- All charsets have the characters of ASCII. -/
theorem has_of_ascii {ch : Char} (hch : ch.toNat < 0x80) : c.Has ch := by
  rcases isUnicode_or_table c with h | ⟨t, h⟩
  · exact has_of_isUnicode h ch
  · exact (has_iff_of_table h).mpr (octet?_of_ascii h hch)

theorem decode_nil (c : Charset) : c.decode [] = .ok [] := by
  cases c <;> rfl

/-- A text has octets exactly if the charset has each of its characters. -/
theorem encode_isOk_iff {cs : List Char} : (∃ bytes, c.encode cs = .ok bytes) ↔ ∀ ch ∈ cs, c.Has ch := by
  rcases isUnicode_or_table c with h | ⟨t, h⟩
  · exact iff_of_true (encode_isOk_of_isUnicode h cs) fun ch _ => has_of_isUnicode h ch
  · simp only [encode_of_table h, SingleByte.encodeFrom_isOk_iff, has_iff_of_table h]

/-- The octets of a text spell the text. -/
theorem decode_of_encode {cs : List Char} {bytes : Bytes} (hbytes : c.encode cs = .ok bytes) :
    c.decode bytes = .ok cs := by
  rcases isUnicode_or_table c with h | ⟨t, h⟩
  · exact decode_encode h hbytes
  · rw [encode_of_table h] at hbytes
    rw [decode_of_table h]
    exact SingleByte.decodeFrom_of_encodeFrom (agrees_of_table h) hbytes

end DeviceRelay.Charset
