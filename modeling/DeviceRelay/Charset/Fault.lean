import DeviceRelay.Text.Quoted

/-!
# Why octets are no text, and a text has no octets

A refused run of octets or characters is named by its first member, the positions of its ends and a
reason. Positions count octets of the input when decoding and characters when encoding.
-/

namespace DeviceRelay.Charset

/-- What is wrong with a run of octets. -/
inductive DecodeReason where
  | badStart
  | badContinuation
  | endOfData
  | beyondAscii
  | oddOctet
  | unpairedHigh
  | unpairedLow
  | unmapped
  /-- What breaks UTF-8, whichever way. -/
  | notUtf8
  deriving Repr, DecidableEq

/-- The words for a decoding reason. -/
def DecodeReason.message : DecodeReason → String
  | .badStart => "invalid start byte"
  | .badContinuation => "invalid continuation byte"
  | .endOfData => "unexpected end of data"
  | .beyondAscii => "ordinal not in range(128)"
  | .oddOctet => "truncated data"
  | .unpairedHigh => "illegal UTF-16 surrogate"
  | .unpairedLow => "illegal encoding"
  | .unmapped => "character maps to <undefined>"
  | .notUtf8 => "invalid utf-8"

/-- The first run of octets that a codec refuses. -/
structure DecodeFault where
  codec : String
  octet : UInt8
  first : Nat
  last : Nat
  reason : DecodeReason
  deriving Repr, DecidableEq

/-- The text of a decoding fault: one octet is named, a run of several is given by its ends. -/
def DecodeFault.message (f : DecodeFault) : String :=
  let place :=
    if f.first = f.last then
      s!"byte 0x" ++ String.ofList (Text.hexDigits 2 f.octet.toNat) ++ s!" in position {f.first}"
    else s!"bytes in position {f.first}-{f.last}"
  s!"'{f.codec}' codec can't decode {place}: " ++ f.reason.message

/-- What is wrong with a run of characters. -/
inductive EncodeReason where
  | beyond (limit : Nat)
  | unmapped
  deriving Repr, DecidableEq

/-- The words for an encoding reason. -/
def EncodeReason.message : EncodeReason → String
  | .beyond limit => s!"ordinal not in range({limit})"
  | .unmapped => "character maps to <undefined>"

/-- The first run of characters that a codec refuses. -/
structure EncodeFault where
  codec : String
  char : Char
  first : Nat
  last : Nat
  reason : EncodeReason
  deriving Repr, DecidableEq

/-- The text of a run that a codec refuses: one code point is named, a run of several is given by its ends. -/
def unencodableMessage (codec : String) (code first last : Nat) (reason : String) : String :=
  let place :=
    if first = last then
      "character '" ++ String.ofList (Text.escapeCode code) ++ s!"' in position {first}"
    else s!"characters in position {first}-{last}"
  s!"'{codec}' codec can't encode {place}: " ++ reason

/-- The text of an encoding fault. -/
def EncodeFault.message (f : EncodeFault) : String :=
  unencodableMessage f.codec f.char.toNat f.first f.last f.reason.message

/-- Why a text cannot be the name of a charset that is looked for. -/
inductive NameFault where
  /-- It holds the character zero. -/
  | zero
  /-- It has no octets in UTF-8, which names are looked for by: the first run of surrogates in it. -/
  | surrogates (code first last : Nat)
  deriving Repr, DecidableEq

/-- The kind of a fault of a name, as error records name it. -/
def NameFault.kindName : NameFault → String
  | .zero => "ValueError"
  | .surrogates _ _ _ => "UnicodeEncodeError"

/-- The text of a fault of a name. -/
def NameFault.message : NameFault → String
  | .zero => "embedded null character"
  | .surrogates code first last => unencodableMessage "utf-8" code first last "surrogates not allowed"

end DeviceRelay.Charset
