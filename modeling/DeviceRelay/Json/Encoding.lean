import DeviceRelay.Charset.Utf16
import DeviceRelay.Charset.Utf8

/-!
# The encoding of a JSON text

A JSON text that comes as octets may say how it is encoded by a mark in front. If it does not, its first characters
are of ASCII all the same, so that the zeros among the first octets tell the width of a unit and the order of its
octets. Without zeros it is UTF-8.

                                    mark            no mark
    four octets, big end first      00 00 FE FF     00 00 -- --
    four octets, little end first   FF FE 00 00     XX 00 00 00
    two octets, big end first       FE FF           00 XX -- --
    two octets, little end first    FF FE           XX 00 -- --
    UTF-8                           EF BB BF

A text here has characters only: octets that spell a surrogate that stands by itself spell no text.
-/

namespace DeviceRelay.Json

open Charset.Utf16 (Order)

/-- How a JSON text is encoded. -/
inductive Encoding where
  | utf8
  | utf16 (order : Order)
  | utf32 (order : Order)
  deriving Repr, DecidableEq

namespace Encoding

/-- The marks of the encodings. One of four octets begins like one of two, so that the longer ones come first. -/
def marks : List (Bytes × Encoding) :=
  [([0x00, 0x00, 0xFE, 0xFF], .utf32 .big), ([0xFF, 0xFE, 0x00, 0x00], .utf32 .little),
    ([0xFE, 0xFF], .utf16 .big), ([0xFF, 0xFE], .utf16 .little), (Charset.Utf8.mark, .utf8)]

/-- The encoding that the first octets tell without a mark. -/
def ofOctets : Bytes → Encoding
  | [a, b] => if a = 0 then .utf16 .big else if b = 0 then .utf16 .little else .utf8
  | a :: b :: c :: d :: _ =>
    if a = 0 then (if b = 0 then .utf32 .big else .utf16 .big)
    else if b = 0 then (if c = 0 ∧ d = 0 then .utf32 .little else .utf16 .little)
    else .utf8
  | _ => .utf8

/-- The characters that units of four octets spell. -/
def wide? (order : Order) : Bytes → Option (List Char)
  | [] => some []
  | a :: b :: c :: d :: rest =>
    let code := match order with
      | .big => order.unit a b * 65536 + order.unit c d
      | .little => order.unit c d * 65536 + order.unit a b
    if h : code.isValidChar then (wide? order rest).map (Char.ofNatAux code h :: ·) else none
  | _ => none

/-- The text that octets spell in an encoding, if they spell one. -/
def decode? : Encoding → Bytes → Option (List Char)
  | .utf8, b => (Charset.Utf8.decode b).toOption
  | .utf16 order, b => (Charset.Utf16.decodeFrom order 0 b).toOption
  | .utf32 order, b => wide? order b

end Encoding

/-- The JSON text that octets spell, if they spell one. A mark is no part of it. -/
def textOf? (octets : Bytes) : Option (List Char) :=
  match Encoding.marks.find? fun entry => entry.1.isPrefixOf octets with
  | some (mark, encoding) => encoding.decode? (octets.drop mark.length)
  | none => (Encoding.ofOctets octets).decode? octets

example : textOf? [0xFF, 0xFE, 0x7B, 0x00, 0x7D, 0x00] = some ['\x7b', '\x7d'] := by decide +kernel

end DeviceRelay.Json
