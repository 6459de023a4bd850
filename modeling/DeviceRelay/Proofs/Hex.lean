import DeviceRelay.Bytes
import DeviceRelay.Proofs.Checked

/-!
# What hexadecimal text is

Octets come back from their hexadecimal text. The text is the only one that says so in lower case and two digits an
octet, without a gap: all that distinguishes it from the other texts that are read as these octets.

* `Hex.read_encode` — the text is read as the octets.
* `Hex.writes_iff` — no other text of lower-case digits is.
-/

namespace DeviceRelay.Hex

/-! ### The text of octets -/

theorem digits_eq : digits = (List.range 16).map digit := by decide

theorem mem_digits_iff {c : Char} : c ∈ digits ↔ ∃ n < 16, digit n = c := by
  simp only [digits_eq, List.mem_map, List.mem_range]

theorem encodeChars_subset_digits (bytes : Bytes) : ∀ c ∈ encodeChars bytes, c ∈ digits := by
  induction bytes with
  | nil => exact List.forall_mem_nil _
  | cons b rest ih =>
    have hb : b.toNat < 256 := b.toNat_lt
    have hhigh : digit (b.toNat / 16) ∈ digits := mem_digits_iff.mpr ⟨_, by omega, rfl⟩
    have hlow : digit (b.toNat % 16) ∈ digits := mem_digits_iff.mpr ⟨_, by omega, rfl⟩
    exact List.forall_mem_cons.mpr ⟨hhigh, List.forall_mem_cons.mpr ⟨hlow, ih⟩⟩

theorem length_encodeChars (bytes : Bytes) : (encodeChars bytes).length = 2 * bytes.length := by
  induction bytes with
  | nil => rfl
  | cons b rest ih =>
    rw [encodeChars, List.length_cons, List.length_cons, List.length_cons, ih]
    omega

theorem toList_encode (bytes : Bytes) : (encode bytes).toList = encodeChars bytes := String.toList_ofList

theorem encode_ne_empty {bytes : Bytes} (h : bytes ≠ []) : encode bytes ≠ "" := by
  intro hempty
  cases bytes with
  | nil => exact h rfl
  | cons b rest =>
    have hchars := toList_encode (b :: rest)
    rw [hempty] at hchars
    cases hchars

/-! ### Reading digits -/

theorem ascii_of_mem_digits {c : Char} (h : c ∈ digits) : c.toNat < 128 := by
  obtain ⟨n, hn, rfl⟩ := mem_digits_iff.mp h
  exact digit_ascii n hn

/-- A text of digits has no character beyond ASCII that would be refused before the rest is read. -/
theorem read_of_digits {text : String} (h : ∀ c ∈ text.toList, c ∈ digits) : read text = readFrom 0 text.toList := by
  have hascii : text.toList.findIdx? (fun c => decide (128 ≤ c.toNat)) = none := by
    rw [List.findIdx?_eq_none_iff]
    intro c hc
    exact decide_eq_false (Nat.not_le.mpr (ascii_of_mem_digits (h c hc)))
  rw [read, hascii]

/-- Octets come back from their hexadecimal form. -/
theorem read_encode (bytes : Bytes) : read (encode bytes) = .ok bytes := by
  have hdigits : ∀ c ∈ (encode bytes).toList, c ∈ digits := toList_encode bytes ▸ encodeChars_subset_digits bytes
  rw [read_of_digits hdigits, toList_encode]
  exact readFrom_encodeChars bytes 0

theorem readFrom_digits {high low : Nat} (hhigh : high < 16) (hlow : low < 16) (pos : Nat) (rest : List Char) :
    readFrom pos (digit high :: digit low :: rest) =
      (readFrom (pos + 2) rest).map (UInt8.ofNat (high * 16 + low) :: ·) := by
  rw [readFrom, isGap_digit high hhigh, value?_digit high hhigh]
  simp only [Bool.false_eq_true, if_false, value?_digit low hlow]

/-- Digits are the form of the octets that they are read as, if there are two for each. -/
theorem eq_encodeChars_of_readFrom {bytes : Bytes} {chars : List Char} {pos : Nat} (hdigits : ∀ c ∈ chars, c ∈ digits)
    (hlength : chars.length = 2 * bytes.length) (hread : readFrom pos chars = .ok bytes) :
    chars = encodeChars bytes := by
  induction bytes generalizing chars pos with
  | nil => exact List.length_eq_zero_iff.mp hlength
  | cons b octets ih =>
    obtain ⟨c, d, rest, rfl⟩ : ∃ c d rest, chars = c :: d :: rest := by
      rcases chars with _ | ⟨c, _ | ⟨d, rest⟩⟩
      · simp at hlength
      · simp at hlength
        omega
      · exact ⟨c, d, rest, rfl⟩
    obtain ⟨hc, hd, hrest⟩ := by simpa only [List.forall_mem_cons] using hdigits
    obtain ⟨high, hhigh, rfl⟩ := mem_digits_iff.mp hc
    obtain ⟨low, hlow, rfl⟩ := mem_digits_iff.mp hd
    rw [readFrom_digits hhigh hlow] at hread
    obtain ⟨octets', hoctets, hcons⟩ := map_eq_ok.mp hread
    obtain ⟨rfl, rfl⟩ := List.cons.inj hcons
    have hvalue : (UInt8.ofNat (high * 16 + low)).toNat = high * 16 + low :=
      UInt8.toNat_ofNat_of_lt' (by show _ < 256; omega)
    have hhalves : (high * 16 + low) / 16 = high ∧ (high * 16 + low) % 16 = low := by omega
    have htail := ih hrest (by simp only [List.length_cons] at hlength; omega) hoctets
    rw [encodeChars, hvalue, hhalves.1, hhalves.2, ← htail]

/-! ### The text that writes octets -/

/-- A text of lower-case digits, two for each octet, that is read as the octets. -/
structure Writes (bytes : Bytes) (text : String) : Prop where
  digits : ∀ c ∈ text.toList, c ∈ digits
  length : text.length = 2 * bytes.length
  read : read text = .ok bytes

/-- The hexadecimal form is the only text that writes the octets. -/
theorem writes_iff {bytes : Bytes} {text : String} : Writes bytes text ↔ text = encode bytes := by
  constructor
  · intro h
    have hread := h.read
    rw [read_of_digits h.digits] at hread
    have hchars := eq_encodeChars_of_readFrom h.digits h.length hread
    rw [encode, ← hchars, String.ofList_toList]
  · rintro rfl
    exact
      { digits := toList_encode bytes ▸ encodeChars_subset_digits bytes
        length := by rw [← String.length_toList, toList_encode, length_encodeChars]
        read := read_encode bytes }

end DeviceRelay.Hex
