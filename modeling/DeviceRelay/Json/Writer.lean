import DeviceRelay.Json
import DeviceRelay.Binary64.Text
import DeviceRelay.Text.Numeral
import DeviceRelay.Text.Quoted

/-!
# Writing JSON texts

Two written forms differ in the blanks behind commas and colons and in how characters beyond printable
ASCII are written. Control characters below the space, the quote and the backslash are escaped in both.
A value with an integer of too many digits is not to be written (`Json.isWritable`).

* `compact`: no blanks, characters from the space on as they are.
* `published`: a blank behind each comma and colon, printable ASCII only.
-/

namespace DeviceRelay.Json

/-- The decisions of a written form. -/
structure Style where
  comma : List Char
  colon : List Char
  /-- Whether a character that is not printable in ASCII is escaped. -/
  ascii : Bool

/-- Nothing that could be left out. -/
def compact : Style := ⟨[','], [':'], false⟩

/-- The form of published values. -/
def published : Style := ⟨[',', ' '], [':', ' '], true⟩

/-- Floating-point numbers are written positionally below `10 ^ 16`, and the values that are no numbers
have names. -/
def numberLayout : Binary64.Layout where
  nan := "NaN"
  infinity := "Infinity"

/-- The escape of a unit of sixteen bits. -/
def escapeUnit (n : Nat) : List Char := '\\' :: 'u' :: Text.hexDigits 4 n

/-- The letter that a short escape has behind its backslash. -/
def shortEscape? : Char → Option Char
  | '"' => some '"'
  | '\\' => some '\\'
  | '\x08' => some 'b'
  | '\x0c' => some 'f'
  | '\n' => some 'n'
  | '\r' => some 'r'
  | '\t' => some 't'
  | _ => none

/-- A character inside quotes. -/
def writeChar (style : Style) (c : Char) : List Char :=
  match shortEscape? c with
  | some letter => ['\\', letter]
  | none =>
    let n := c.toNat
    if n < 0x20 then escapeUnit n
    else if n < 0x7F || !style.ascii then [c]
    else if n < 0x10000 then escapeUnit n
    else
      escapeUnit (0xD800 + (n - 0x10000) / 1024) ++ escapeUnit (0xDC00 + (n - 0x10000) % 1024)

/-- A text between quotes. -/
def writeString (style : Style) (s : String) : List Char :=
  '"' :: (s.toList.flatMap (writeChar style) ++ ['"'])

/-- An integer in decimal digits. -/
def writeInt (n : Int) : List Char :=
  (if n < 0 then ['-'] else []) ++ Nat.toDigits 10 n.natAbs

mutual

/-- A value in the style. -/
def writeChars (style : Style) : Json → List Char
  | .null => "null".toList
  | .bool true => "true".toList
  | .bool false => "false".toList
  | .int n => writeInt n
  | .float x => (Binary64.text numberLayout x).toList
  | .str s => writeString style s
  | .arr items => '[' :: (writeItems style items ++ [']'])
  | .obj members => '\x7b' :: (writeMembers style members ++ ['\x7d'])

/-- Items with commas between them. -/
def writeItems (style : Style) : List Json → List Char
  | [] => []
  | [item] => writeChars style item
  | item :: rest => writeChars style item ++ style.comma ++ writeItems style rest

/-- Members with commas between them. -/
def writeMembers (style : Style) : List (String × Json) → List Char
  | [] => []
  | [(name, value)] => writeString style name ++ style.colon ++ writeChars style value
  | (name, value) :: rest =>
    writeString style name ++ style.colon ++ writeChars style value ++ style.comma ++
      writeMembers style rest

end

/-- A value in the style, as text. -/
def write (style : Style) (v : Json) : String := String.ofList (writeChars style v)

mutual

/-- Whether every integer of the value may be written out. -/
def isWritable : Json → Bool
  | .int n => Text.isWritable n
  | .arr items => allWritable items
  | .obj members => membersWritable members
  | _ => true

/-- Whether every integer of the items may be written out. -/
def allWritable : List Json → Bool
  | [] => true
  | item :: rest => isWritable item && allWritable rest

/-- Whether every integer of the members may be written out. -/
def membersWritable : List (String × Json) → Bool
  | [] => true
  | (_, v) :: rest => isWritable v && membersWritable rest

end

end DeviceRelay.Json
