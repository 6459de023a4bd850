import DeviceRelay.Charset.Fault

/-!
# UTF-8

The decoder is a machine that takes one octet at a time. Between characters it stands at `start`;
inside one it knows how many octets are owed, which range the next must lie in, and where the
character began, so that a refusal names the longest valid start of the broken character.

    octet ranges: lead C2–DF owes one, E0–EF two, F0–F4 three;
    E0, ED, F0 and F4 narrow the range of the octet behind them.
-/

namespace DeviceRelay.Charset.Utf8

/-- A character under way. -/
structure Pending where
  /-- Where its lead octet stands. -/
  start : Nat
  lead : UInt8
  /-- How many octets are owed behind the next one. -/
  owed : Nat
  /-- The range that the next octet must lie in. -/
  low : Nat
  high : Nat
  /-- The bits gathered so far. -/
  bits : Nat

/-- What a lead octet announces; none for an octet that starts no character of several octets. -/
def pending? (pos : Nat) (b : UInt8) : Option Pending :=
  let n := b.toNat
  if 0xC2 ≤ n ∧ n ≤ 0xDF then some ⟨pos, b, 0, 0x80, 0xBF, n - 0xC0⟩
  else if n = 0xE0 then some ⟨pos, b, 1, 0xA0, 0xBF, 0⟩
  else if n = 0xED then some ⟨pos, b, 1, 0x80, 0x9F, n - 0xE0⟩
  else if 0xE1 ≤ n ∧ n ≤ 0xEF then some ⟨pos, b, 1, 0x80, 0xBF, n - 0xE0⟩
  else if n = 0xF0 then some ⟨pos, b, 2, 0x90, 0xBF, 0⟩
  else if 0xF1 ≤ n ∧ n ≤ 0xF3 then some ⟨pos, b, 2, 0x80, 0xBF, n - 0xF0⟩
  else if n = 0xF4 then some ⟨pos, b, 2, 0x80, 0x8F, n - 0xF0⟩
  else none

/-- A refusal of the character under way, which ends before position `pos`. -/
def Pending.fault (p : Pending) (pos : Nat) (reason : DecodeReason) : DecodeFault :=
  ⟨"utf-8", p.lead, p.start, pos - 1, reason⟩

/-- Run the machine from position `pos` on. -/
def run : Option Pending → Nat → Bytes → Except DecodeFault (List Char)
  | none, _, [] => .ok []
  | some p, pos, [] => .error (p.fault pos .endOfData)
  | none, pos, b :: rest =>
    if b.toNat < 0x80 then (run none (pos + 1) rest).map (Char.ofNat b.toNat :: ·)
    else match pending? pos b with
      | some p => run (some p) (pos + 1) rest
      | none => .error ⟨"utf-8", b, pos, pos, .badStart⟩
  | some p, pos, b :: rest =>
    if p.low ≤ b.toNat ∧ b.toNat ≤ p.high then
      let bits := p.bits * 64 + (b.toNat - 0x80)
      match p.owed with
      | 0 => (run none (pos + 1) rest).map (Char.ofNat bits :: ·)
      | owed + 1 =>
        run (some { p with owed := owed, low := 0x80, high := 0xBF, bits := bits }) (pos + 1) rest
    else .error (p.fault pos .badContinuation)

/-- The characters that the octets spell. -/
def decode (bytes : Bytes) : Except DecodeFault (List Char) := run none 0 bytes

/-- The characters that the octets spell, with a replacement character for each refused run. -/
def decodeLossy : Bytes → List Char
  | [] => []
  | b :: rest =>
    match decode (b :: rest) with
    | .ok cs => cs
    | .error f =>
      (decode ((b :: rest).take f.first)).toOption.getD [] ++
        '\ufffd' :: decodeLossy (rest.drop f.last)
termination_by bytes => bytes.length
decreasing_by simp only [List.length_drop, List.length_cons]; omega

/-- A continuation octet with six bits. -/
def tail (bits : Nat) : UInt8 := UInt8.ofNat (0x80 + bits % 64)

/-- The octets of one character. -/
def encodeChar (c : Char) : Bytes :=
  let n := c.toNat
  if n < 0x80 then [UInt8.ofNat n]
  else if n < 0x800 then [UInt8.ofNat (0xC0 + n / 64), tail n]
  else if n < 0x10000 then [UInt8.ofNat (0xE0 + n / 4096), tail (n / 64), tail n]
  else [UInt8.ofNat (0xF0 + n / 262144), tail (n / 4096), tail (n / 64), tail n]

/-- The octets of a row of characters. -/
def encode (cs : List Char) : Bytes := cs.flatMap encodeChar

/-- The octets of a text. -/
def ofText (s : String) : Bytes := encode s.toList

/-- The text that the octets spell, if they spell one. -/
def toText? (bytes : Bytes) : Option String := ((decode bytes).toOption).map String.ofList

/-- The mark that some writers put before a text. -/
def mark : Bytes := [0xEF, 0xBB, 0xBF]

/-- The octets behind one leading mark. -/
def dropMark : Bytes → Bytes
  | 0xEF :: 0xBB :: 0xBF :: rest => rest
  | bytes => bytes

end DeviceRelay.Charset.Utf8
