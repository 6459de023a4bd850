/-!
# Bytes and their hexadecimal form

A message body, a byte metric and a charset's output are all lists of octets. `Hex.encode` writes
two lower-case digits per octet; `Hex.read` takes either letter case and blanks between octets, and
says at which character a text stops being hexadecimal.

    Bytes ──Hex.encode──▶ text ──Hex.read──▶ Bytes
-/

namespace DeviceRelay

/-- A sequence of octets. -/
abbrev Bytes := List UInt8

namespace Hex

/-- The sixteen digits, in order of value. -/
def digits : List Char := "0123456789abcdef".toList

/-- The digit of a value below sixteen. -/
def digit (n : Nat) : Char := digits.getD n '0'

/-- Two digits per octet, high half first. -/
def encodeChars : Bytes → List Char
  | [] => []
  | b :: rest => digit (b.toNat / 16) :: digit (b.toNat % 16) :: encodeChars rest

/-- The lower-case hexadecimal form. -/
def encode (bytes : Bytes) : String := String.ofList (encodeChars bytes)

/-- The value of a hexadecimal digit of either letter case. -/
def value? (c : Char) : Option Nat :=
  if '0' ≤ c ∧ c ≤ '9' then some (c.toNat - '0'.toNat)
  else if 'a' ≤ c ∧ c ≤ 'f' then some (c.toNat - 'a'.toNat + 10)
  else if 'A' ≤ c ∧ c ≤ 'F' then some (c.toNat - 'A'.toNat + 10)
  else none

/-- The blanks that may stand between two octets. -/
def isGap (c : Char) : Bool := c == ' ' || ('\t' ≤ c && c ≤ '\r')

/-- Octets from position `pos` on; a refusal names the position of the first character that is
neither a gap nor the digit that is due, which for a lone digit is the position behind it. -/
def readFrom (pos : Nat) : List Char → Except Nat Bytes
  | [] => .ok []
  | c :: rest =>
    if isGap c then readFrom (pos + 1) rest
    else match value? c with
      | none => .error pos
      | some high =>
        match rest with
        | [] => .error (pos + 1)
        | d :: rest =>
          match value? d with
          | none => .error (pos + 1)
          | some low => (readFrom (pos + 2) rest).map (UInt8.ofNat (high * 16 + low) :: ·)

/-- Read a hexadecimal text. A character beyond ASCII is refused before anything else. -/
def read (text : String) : Except Nat Bytes :=
  match text.toList.findIdx? (fun c => 128 ≤ c.toNat) with
  | some pos => .error pos
  | none => readFrom 0 text.toList

/-! ### Reading undoes writing -/

theorem value?_digit : ∀ n < 16, value? (digit n) = some n := by decide

theorem isGap_digit : ∀ n < 16, isGap (digit n) = false := by decide

theorem digit_ascii : ∀ n < 16, (digit n).toNat < 128 := by decide

theorem readFrom_encodeChars (bytes : Bytes) (pos : Nat) :
    readFrom pos (encodeChars bytes) = .ok bytes := by
  induction bytes generalizing pos with
  | nil => rfl
  | cons b rest ih =>
    have hb : b.toNat < 256 := b.toNat_lt
    rw [encodeChars, readFrom, isGap_digit _ (by omega), value?_digit _ (by omega)]
    simp only [Bool.false_eq_true, if_false]
    rw [value?_digit _ (by omega), ih]
    simp [Except.map, Nat.div_add_mod']

end Hex

end DeviceRelay
