import DeviceRelay.Bytes

/-!
# Octets in base sixty-four

Four digits of six bits make three octets. Characters that are no digits are passed over; equals signs
fill the last group up to four and end the text once they do.

    digits    000000 111111 222222 333333
    octets    000000 11 1111 2222 22 333333
-/

namespace DeviceRelay.Base64

/-- The sixty-four digits, in order of value. -/
def digits : List Char := "ABCDEFGHIJKLMNOPQRSTUVWXYZabcdefghijklmnopqrstuvwxyz0123456789+/".toList

/-- The value of a digit. -/
def value? (c : Char) : Option Nat := digits.findIdx? (· == c)

/-- A group of digits under way. -/
structure Group where
  /-- How many digits there are. -/
  size : Nat
  /-- The bits that are no part of an octet yet. -/
  bits : Nat
  /-- How many equals signs follow the last digit. -/
  fill : Nat

/-- No digits. -/
def Group.empty : Group := ⟨0, 0, 0⟩

/-- The group with one digit more, and the octet that this completes. -/
def Group.push (g : Group) (d : Nat) : Group × Bytes :=
  match g.size with
  | 0 => (⟨1, d, 0⟩, [])
  | 1 => (⟨2, d % 16, 0⟩, [UInt8.ofNat (g.bits * 4 + d / 16)])
  | 2 => (⟨3, d % 4, 0⟩, [UInt8.ofNat (g.bits * 16 + d / 4)])
  | _ => (.empty, [UInt8.ofNat (g.bits * 64 + d)])

/-- The octets of a text behind a group; a group that is neither complete nor filled up spells none. -/
def decodeFrom? (g : Group) : List Char → Option Bytes
  | [] => if g.size = 0 then some [] else none
  | c :: rest =>
    if c = '=' then
      if g.size < 2 then decodeFrom? g rest
      else if 4 ≤ g.size + g.fill + 1 then some []
      else decodeFrom? { g with fill := g.fill + 1 } rest
    else match value? c with
      | none => decodeFrom? g rest
      | some d =>
        let (g, octets) := g.push d
        (decodeFrom? g rest).map (octets ++ ·)

/-- The octets that a text spells. -/
def decode? (text : List Char) : Option Bytes := decodeFrom? .empty text

end DeviceRelay.Base64
