import DeviceRelay.Bytes
import DeviceRelay.Text.Printable

/-!
# Quoted texts

A value named in an error text is written so that it cannot be mistaken for the words around it:
between quotes, with an escape for the quote in use, for the backslash and for every character that
stands for no visible one. Apostrophes are the quotes, unless the text holds an apostrophe and no
double quote.
-/

namespace DeviceRelay.Text

/-- `width` hexadecimal digits of `n`, lower-case. -/
def hexDigits : Nat → Nat → List Char
  | 0, _ => []
  | width + 1, n => hexDigits width (n / 16) ++ [Hex.digit (n % 16)]

/-- The quote for a text: an apostrophe, unless one is inside and no double quote is. -/
def quoteFor (cs : List Char) : Char :=
  if cs.contains '\'' && !cs.contains '"' then '"' else '\''

/-- The escape of a code point, as short as its size allows. -/
def escapeCode (code : Nat) : List Char :=
  if code < 0x100 then '\\' :: 'x' :: hexDigits 2 code
  else if code < 0x10000 then '\\' :: 'u' :: hexDigits 4 code
  else '\\' :: 'U' :: hexDigits 8 code

/-- The characters that have an escape of one letter. -/
def escapeLetter? : Char → Option Char
  | '\\' => some '\\'
  | '\n' => some 'n'
  | '\r' => some 'r'
  | '\t' => some 't'
  | _ => none

/-- A character inside quotes `q`; `shows` says which characters stand for themselves. -/
def quotedChar (shows : Char → Bool) (q c : Char) : List Char :=
  if c = q then ['\\', c]
  else match escapeLetter? c with
    | some l => ['\\', l]
    | none => if shows c then [c] else escapeCode c.toNat

/-- A row of characters between quotes. -/
def quotedWith (shows : Char → Bool) (cs : List Char) : List Char :=
  quoteFor cs :: (cs.flatMap (quotedChar shows (quoteFor cs)) ++ [quoteFor cs])

/-- A text between quotes. -/
def quoted (s : String) : String := String.ofList (quotedWith isPrintable s.toList)

/-- Octets between quotes behind a `b`: those of printable ASCII as characters. -/
def quotedBytes (bytes : Bytes) : String :=
  String.ofList ('b' :: quotedWith (fun c => ' ' ≤ c && c ≤ '~')
    (bytes.map fun b => Char.ofNat b.toNat))

end DeviceRelay.Text
