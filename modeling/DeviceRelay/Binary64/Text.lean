import DeviceRelay.Binary64.Shortest

/-!
# Binary64 values in text

The digits come from `shortest?`; how they are laid out is a `Layout`: positional up to some size, and
with a signed exponent beyond it. Reading takes a sign, digits with at most one point among them and
an exponent, or the name of a value that is no number.
-/

namespace DeviceRelay.Binary64

/-- The decisions of a written form. `plainAbove` and `plainUpTo` bound the number of digits in front
of the point of a value that is written positionally. -/
structure Layout where
  plainAbove : Int := -4
  plainUpTo : Int := 16
  exponentWidth : Nat := 2
  nan : String
  infinity : String

/-- Digits with the point behind the first `point` of them; at least one digit stands on each
side. -/
def plainDigits (digits : List Char) (point : Int) : List Char :=
  if point ≤ 0 then '0' :: '.' :: (List.replicate (-point).toNat '0' ++ digits)
  else if digits.length ≤ point.toNat then
    digits ++ List.replicate (point.toNat - digits.length) '0' ++ ['.', '0']
  else digits.take point.toNat ++ '.' :: digits.drop point.toNat

/-- One digit, the others behind a point, and the exponent with its sign. -/
def scientificDigits (width : Nat) (digits : List Char) (exponent : Int) : List Char :=
  let mantissa := match digits with
    | [] => ['0']
    | [d] => [d]
    | d :: rest => d :: '.' :: rest
  let size := Nat.toDigits 10 exponent.natAbs
  mantissa ++ 'e' :: (if exponent < 0 then '-' else '+') ::
    (List.replicate (width - size.length) '0' ++ size)

/-- A decimal in the layout. -/
def Layout.decimal (layout : Layout) (d : Decimal) : List Char :=
  let digits := Nat.toDigits 10 d.digits
  let point : Int := if d.digits = 0 then 1 else digits.length + d.exponent
  if layout.plainAbove < point ∧ point ≤ layout.plainUpTo then plainDigits digits point
  else scientificDigits layout.exponentWidth digits (point - 1)

/-- A value in the layout. -/
def text (layout : Layout) (x : Binary64) : String :=
  match x with
  | .nan => layout.nan
  | .infinite negative => (if negative then "-" else "") ++ layout.infinity
  | .finite negative _ _ _ =>
    match x.shortest? with
    | some (_, d) => String.ofList ((if negative then ['-'] else []) ++ layout.decimal d)
    | none => layout.nan

/-! ### Reading -/

/-- The number that a row of ASCII digits spells. -/
def digitsValue (cs : List Char) : Nat := cs.foldl (fun n c => n * 10 + (c.toNat - '0'.toNat)) 0

/-- A leading sign, and what follows it. -/
def takeSign : List Char → Bool × List Char
  | '-' :: rest => (true, rest)
  | '+' :: rest => (false, rest)
  | cs => (false, cs)

/-- An exponent behind `e`, or none at the end of the text. -/
def readExponent? : List Char → Option Int
  | [] => some 0
  | c :: rest =>
    let (negative, digits) := takeSign rest
    if (c == 'e' || c == 'E') && !digits.isEmpty && digits.all Char.isDigit then
      some (if negative then -(digitsValue digits : Int) else digitsValue digits)
    else none

/-- The value nearest to an unsigned decimal: digits, a point among or beside them, an exponent. -/
def readDecimal? (negative : Bool) (cs : List Char) : Option Binary64 :=
  let whole := cs.takeWhile Char.isDigit
  let (fraction, rest) := match cs.dropWhile Char.isDigit with
    | '.' :: rest => (rest.takeWhile Char.isDigit, rest.dropWhile Char.isDigit)
    | rest => ([], rest)
  if whole.isEmpty && fraction.isEmpty then none
  else (readExponent? rest).map fun exponent =>
    ofDecimal negative (digitsValue (whole ++ fraction)) (exponent - fraction.length)

/-- The value that a text spells. -/
def read? (layout : Layout) (s : String) : Option Binary64 :=
  let (negative, cs) := takeSign s.toList
  if cs = layout.nan.toList then some .nan
  else if cs = layout.infinity.toList then some (.infinite negative)
  else readDecimal? negative cs

end DeviceRelay.Binary64
