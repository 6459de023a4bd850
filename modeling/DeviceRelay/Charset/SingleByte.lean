import DeviceRelay.Charset.Fault

/-!
# Charsets of one octet per character

Such a charset is a partial table from octets to characters. Decoding refuses the first octet that
the table leaves out, one at a time; encoding refuses the first run of characters that no octet
stands for.
-/

namespace DeviceRelay.Charset.SingleByte

/-- A charset of one octet per character. -/
structure Table where
  /-- The name under which a refusal is reported. -/
  codec : String
  char? : UInt8 → Option Char
  octet? : Char → Option UInt8
  whyDecode : DecodeReason
  whyEncode : EncodeReason

/-- The characters of the octets from position `pos` on. -/
def decodeFrom (t : Table) (pos : Nat) : Bytes → Except DecodeFault (List Char)
  | [] => .ok []
  | b :: rest =>
    match t.char? b with
    | some c => (decodeFrom t (pos + 1) rest).map (c :: ·)
    | none => .error ⟨t.codec, b, pos, pos, t.whyDecode⟩

/-- The octets of the characters from position `pos` on. -/
def encodeFrom (t : Table) (pos : Nat) : List Char → Except EncodeFault Bytes
  | [] => .ok []
  | c :: rest =>
    match t.octet? c with
    | some b => (encodeFrom t (pos + 1) rest).map (b :: ·)
    | none =>
      .error ⟨t.codec, c, pos, pos + (rest.takeWhile fun d => (t.octet? d).isNone).length, t.whyEncode⟩

/-- The first 128 characters. -/
def ascii : Table where
  codec := "ascii"
  char? b := if b.toNat < 128 then some (Char.ofNat b.toNat) else none
  octet? c := if c.toNat < 128 then some (UInt8.ofNat c.toNat) else none
  whyDecode := .beyondAscii
  whyEncode := .beyond 128

/-- The first 256 characters; every octet stands for one. -/
def latin1 : Table where
  codec := "latin-1"
  char? b := some (Char.ofNat b.toNat)
  octet? c := if c.toNat < 256 then some (UInt8.ofNat c.toNat) else none
  whyDecode := .unmapped
  whyEncode := .beyond 256

/-- What Windows puts in place of the controls 80–9F; zero where it puts nothing. -/
def windowsBlock : List Nat :=
  [0x20AC, 0, 0x201A, 0x0192, 0x201E, 0x2026, 0x2020, 0x2021,
   0x02C6, 0x2030, 0x0160, 0x2039, 0x0152, 0, 0x017D, 0,
   0, 0x2018, 0x2019, 0x201C, 0x201D, 0x2022, 0x2013, 0x2014,
   0x02DC, 0x2122, 0x0161, 0x203A, 0x0153, 0, 0x017E, 0x0178]

/-- Western European Windows: Latin-1 with other characters in the block 80–9F. -/
def windows1252 : Table where
  codec := "charmap"
  char? b :=
    let n := b.toNat
    if n < 0x80 ∨ 0xA0 ≤ n then some (Char.ofNat n)
    else match windowsBlock.getD (n - 0x80) 0 with
      | 0 => none
      | code => some (Char.ofNat code)
  octet? c :=
    let n := c.toNat
    if n < 0x80 ∨ (0xA0 ≤ n ∧ n < 0x100) then some (UInt8.ofNat n)
    else if n < 0x100 then none
    else (windowsBlock.findIdx? (· == n)).map fun i => UInt8.ofNat (0x80 + i)
  whyDecode := .unmapped
  whyEncode := .unmapped

end DeviceRelay.Charset.SingleByte
