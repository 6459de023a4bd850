import DeviceRelay.Binary64.Text
import DeviceRelay.Bytes
import DeviceRelay.Text.Digit
import DeviceRelay.Text.Quoted

/-!
# Numbers in text

An integer is written with an optional sign and digits of any script, single underscores
between digits, and blanks around the whole. A text of ASCII alone may have only ASCII blanks around
it. There is a limit on the number of digits, leading zeros counted. In bases two, eight and sixteen a
zero with a letter may stand in front. A floating-point number may have the same blanks and digits.
-/

namespace DeviceRelay.Text

/-- The greatest number of digits that an integer may be written with. -/
def digitLimit : Nat := 4300

/-- Why a text is no integer. -/
inductive NumeralFault where
  /-- More digits than the limit. -/
  | tooManyDigits (digits : Nat)
  /-- No numeral in the base. -/
  | malformed (base : Nat) (text : String)
  deriving Repr, DecidableEq

/-- The text of a numeral fault. The refused text is cut off after two hundred characters. -/
def NumeralFault.message : NumeralFault → String
  | .tooManyDigits n =>
    s!"Exceeds the limit ({digitLimit} digits) for integer string conversion: value has {n} digits; " ++
      "use sys.set_int_max_str_digits() to increase the limit"
  | .malformed base text =>
    s!"invalid literal for int() with base {base}: " ++ ((quoted text).take 200).toString

/-- Whether an integer may be written out in digits. -/
def isWritable (n : Int) : Bool := n.natAbs < Nat.pow 10 digitLimit

/-- What is said of an integer that may not be written out. -/
def unwritableMessage : String :=
  s!"Exceeds the limit ({digitLimit} digits) for integer string conversion; " ++
    "use sys.set_int_max_str_digits() to increase the limit"

/-- One character of a numeral in ASCII: digits of other scripts become ASCII digits, and blanks
beyond ASCII become spaces. Anything else beyond ASCII belongs to no numeral. -/
def toAsciiNumeral (c : Char) : Char :=
  if c.toNat < 127 then c
  else if isBlank c then ' '
  else match decimalValue? c with
    | some d => Char.ofNat ('0'.toNat + d)
    | none => '?'

/-- A text in ASCII, as far as it may be a numeral, without the blanks around it. -/
def numeralBody (s : String) : List Char :=
  let cs := s.toList
  trimBy isAsciiBlank (if cs.all (·.toNat < 128) then cs else cs.map toAsciiNumeral)

/-- The value of a digit of a base. -/
def digit? (base : Nat) (c : Char) : Option Nat := (Hex.value? c).filter fun d => d < base

/-- The leading digits of a numeral, most significant first, and what is left. An underscore is
taken only between two digits. -/
def leadingDigits (base : Nat) : List Char → List Nat × List Char
  | [] => ([], [])
  | c :: rest =>
    match digit? base c with
    | some d =>
      let (ds, tail) := leadingDigits base rest
      (d :: ds, tail)
    | none =>
      if c = '_' then
        match rest with
        | d :: _ => if (digit? base d).isSome then leadingDigits base rest else ([], c :: rest)
        | [] => ([], [c])
      else ([], c :: rest)

/-- The letter that may stand behind a zero in front of the digits of a base. -/
def baseMark? : Nat → Option Char
  | 2 => some 'b'
  | 8 => some 'o'
  | 16 => some 'x'
  | _ => none

/-- Drop the mark of a base in front of its digits, and one underscore behind it. -/
def dropBaseMark (base : Nat) (cs : List Char) : List Char :=
  match cs with
  | '0' :: c :: rest =>
    if baseMark? base = some c.toLower then
      if rest.head? = some '_' then rest.drop 1 else rest
    else cs
  | _ => cs

/-- The number that digits spell in a base. -/
def valueIn (base : Nat) (digits : List Nat) : Nat := digits.foldl (fun n d => n * base + d) 0

/-- The integer that a text spells in a base. Only in base ten there is a limit on the digits. -/
def readIntegerIn (base : Nat) (s : String) : Except NumeralFault Int :=
  let (negative, body) := match numeralBody s with
    | '-' :: rest => (true, rest)
    | '+' :: rest => (false, rest)
    | cs => (false, cs)
  let body := dropBaseMark base body
  let (digits, tail) := leadingDigits base body
  if digits.isEmpty || body.head? = some '_' || tail.head? = some '_' then .error (.malformed base s)
  else if base = 10 ∧ digitLimit < digits.length then .error (.tooManyDigits digits.length)
  else if !tail.isEmpty then .error (.malformed base s)
  else .ok (if negative then -(valueIn base digits : Int) else valueIn base digits)

/-- The integer that a text in base ten spells. -/
def readInteger (s : String) : Except NumeralFault Int := readIntegerIn 10 s

/-- The floating-point number that a text spells: a decimal, or a word for a value that is none, in
letters of any case. -/
def readFloat? (s : String) : Option Binary64 :=
  let (negative, body) := Binary64.takeSign (numeralBody s)
  match String.ofList (body.map Char.toLower) with
  | "nan" => some .nan
  | "inf" | "infinity" => some (.infinite negative)
  | _ => Binary64.readDecimal? negative body

end DeviceRelay.Text
