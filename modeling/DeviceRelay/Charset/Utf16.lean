import DeviceRelay.Charset.Fault

/-!
# UTF-16

A character is one 16-bit unit, or a high surrogate and a low one. The octets of a unit come in
either order; a mark in front may say which, and little end first is the order without one.
-/

namespace DeviceRelay.Charset.Utf16

/-- Which octet of a unit comes first. -/
inductive Order where
  | little
  | big
  deriving Repr, DecidableEq

/-- The name under which a refusal of this order is reported. -/
def Order.codec : Order → String
  | .little => "utf-16-le"
  | .big => "utf-16-be"

/-- The unit that two octets spell. -/
def Order.unit : Order → UInt8 → UInt8 → Nat
  | .little, a, b => b.toNat * 256 + a.toNat
  | .big, a, b => a.toNat * 256 + b.toNat

/-- The octets of a unit. -/
def Order.octets (unit : Nat) : Order → Bytes
  | .little => [UInt8.ofNat (unit % 256), UInt8.ofNat (unit / 256)]
  | .big => [UInt8.ofNat (unit / 256), UInt8.ofNat (unit % 256)]

/-- The first unit of a pair. -/
def isHigh (unit : Nat) : Bool := 0xD800 ≤ unit && unit < 0xDC00

/-- The second unit of a pair. -/
def isLow (unit : Nat) : Bool := 0xDC00 ≤ unit && unit < 0xE000

/-- The code point that a pair spells. -/
def paired (high low : Nat) : Nat := 0x10000 + (high - 0xD800) * 0x400 + (low - 0xDC00)

/-- The characters that the octets from position `pos` on spell. -/
def decodeFrom (order : Order) (pos : Nat) : Bytes → Except DecodeFault (List Char)
  | [] => .ok []
  | [a] => .error ⟨order.codec, a, pos, pos, .oddOctet⟩
  | a :: b :: rest =>
    let unit := order.unit a b
    if isLow unit then .error ⟨order.codec, a, pos, pos + 1, .unpairedLow⟩
    else if isHigh unit then
      match rest with
      | c :: d :: rest =>
        if isLow (order.unit c d) then
          (decodeFrom order (pos + 4) rest).map (Char.ofNat (paired unit (order.unit c d)) :: ·)
        else .error ⟨order.codec, a, pos, pos + 1, .unpairedHigh⟩
      | _ => .error ⟨order.codec, a, pos, pos + 1 + rest.length, .endOfData⟩
    else (decodeFrom order (pos + 2) rest).map (Char.ofNat unit :: ·)

/-- The octets of one character. -/
def encodeChar (order : Order) (c : Char) : Bytes :=
  let n := c.toNat
  if n < 0x10000 then order.octets n
  else
    order.octets (0xD800 + (n - 0x10000) / 0x400) ++ order.octets (0xDC00 + (n - 0x10000) % 0x400)

/-- The octets of a row of characters, without a mark. -/
def encode (order : Order) (cs : List Char) : Bytes := cs.flatMap (encodeChar order)

/-- Decode in the order that a leading mark names, which is dropped; positions count from the mark. -/
def decodeMarked : Bytes → Except DecodeFault (List Char)
  | 0xFF :: 0xFE :: rest => decodeFrom .little 2 rest
  | 0xFE :: 0xFF :: rest => decodeFrom .big 2 rest
  | bytes => decodeFrom .little 0 bytes

/-- Encode with a mark in front, little end first. -/
def encodeMarked (cs : List Char) : Bytes := 0xFF :: 0xFE :: encode .little cs

end DeviceRelay.Charset.Utf16
