/-!
# Binary64 values

A metric may be a floating-point number. Its value is exact here: a sign, a whole significand and a
power of two, or an infinity, or no number at all. There is one operation with a rounding, from which
all others come: `nearest` takes a quotient of naturals to the closest representable value, an exact
half to the even significand, and beyond the greatest value to infinity.

    |x| = significand · 2 ^ exponent,   significand < 2 ^ 53,   -1074 ≤ exponent ≤ 971
-/

namespace DeviceRelay

/-- The significand and exponent of a finite value: 53 bits, or fewer at the least exponent. -/
def Binary64.Canonical (significand : Nat) (exponent : Int) : Prop :=
  significand < 0x20000000000000 ∧ exponent ≤ 971 ∧
    (exponent = -1074 ∨ (0x10000000000000 ≤ significand ∧ -1074 ≤ exponent))

instance (significand : Nat) (exponent : Int) :
    Decidable (Binary64.Canonical significand exponent) := by
  unfold Binary64.Canonical; infer_instance

/-- A binary floating-point number of 64 bits. -/
inductive Binary64 where
  | nan
  | infinite (negative : Bool)
  | finite (negative : Bool) (significand : Nat) (exponent : Int)
      (canonical : Binary64.Canonical significand exponent)
  deriving Repr, DecidableEq

namespace Binary64

/-- A natural times a power of two, as a quotient of naturals. -/
def scaled (n : Nat) (exponent : Int) : Nat × Nat :=
  (n * Nat.pow 2 exponent.toNat, Nat.pow 2 (-exponent).toNat)

/-- The whole number nearest to a quotient; an exact half goes to the even neighbour. -/
def roundHalfEven (num den : Nat) : Nat :=
  let q := num / den
  let r := num % den
  if 2 * r < den then q else if den < 2 * r then q + 1 else q + q % 2

/-- The exponent at which the quotient has a significand of 53 bits, or the least one. -/
def fittingExponent (num den : Nat) : Int :=
  if num = 0 then -1074 else
  let guess : Int := num.log2 - den.log2 - 52
  let (n, d) := (num * Nat.pow 2 (-guess).toNat, den * Nat.pow 2 guess.toNat)
  max (if n / d < 0x10000000000000 then guess - 1 else guess) (-1074)

/-- The representable value nearest to the quotient of two naturals. -/
def nearest (negative : Bool) (num den : Nat) : Binary64 :=
  let exponent := fittingExponent num den
  let whole := roundHalfEven (num * Nat.pow 2 (-exponent).toNat) (den * Nat.pow 2 exponent.toNat)
  let (significand, exponent) :=
    if whole = 0x20000000000000 then (0x10000000000000, exponent + 1) else (whole, exponent)
  if h : Canonical significand exponent then .finite negative significand exponent h
  else .infinite negative

/-- The natural nearest to a finite value without its sign. -/
def rounded : Binary64 → Nat
  | .finite _ m e _ =>
    let (num, den) := scaled m e
    roundHalfEven num den
  | _ => 0

/-- The value nearest to an integer. -/
def ofInt (n : Int) : Binary64 := nearest (n < 0) n.natAbs 1

/-- The value nearest to `digits · 10 ^ exponent`. Exponents far out of range are not computed: the
result is then zero or infinite. -/
def ofDecimal (negative : Bool) (digits : Nat) (exponent : Int) : Binary64 :=
  let size : Int := (Nat.toDigits 10 digits).length + exponent
  if digits = 0 ∨ size < -400 then nearest negative 0 1
  else if 400 < size then .infinite negative
  else nearest negative (digits * Nat.pow 10 exponent.toNat) (Nat.pow 10 (-exponent).toNat)

/-- Positive zero. -/
def zero : Binary64 := nearest false 0 1

/-- A finite value as a quotient of an integer by a natural. -/
def quotient? : Binary64 → Option (Int × Nat)
  | .finite negative m e _ =>
    let (num, den) := scaled m e
    some (if negative then -(num : Int) else num, den)
  | _ => none

/-- The value nearest to a quotient. -/
def ofQuotient (num : Int) (den : Nat) : Binary64 := nearest (num < 0) num.natAbs den

/-- The value nearest to the exact sum. An infinity outweighs what is finite, and two of opposite signs
make no number. -/
def add (x y : Binary64) : Binary64 :=
  match x.quotient?, y.quotient? with
  | some (a, b), some (c, d) => ofQuotient (a * d + c * b) (b * d)
  | some _, none => y
  | none, some _ => x
  | none, none => if x = y then x else .nan

/-- The value nearest to the exact product with an integer. -/
def scaleBy (x : Binary64) (n : Int) : Binary64 :=
  match x with
  | .nan => .nan
  | .infinite negative => if n = 0 then .nan else .infinite (negative != decide (n < 0))
  | .finite negative m e _ =>
    let (num, den) := scaled m e
    nearest (negative != decide (n < 0)) (num * n.natAbs) den

/-- The value with the other sign. -/
def negate : Binary64 → Binary64
  | .nan => .nan
  | .infinite negative => .infinite !negative
  | .finite negative m e h => .finite (!negative) m e h

/-- Whether the value is a number and not infinite. -/
def isFinite : Binary64 → Bool
  | .finite .. => true
  | _ => false

/-- The whole part of a finite value and whether anything follows it; the sign is that of the
value. -/
def wholePart : Binary64 → Option (Int × Bool)
  | .finite negative m e _ =>
    let (num, den) := scaled m e
    let whole : Int := num / den
    some (if negative then -whole else whole, num % den ≠ 0)
  | _ => none

/-- A finite value as an integer, with whatever follows its whole part rounded away from zero. -/
def awayFromZero? : Binary64 → Option Int
  | .finite negative m e _ =>
    let (num, den) := scaled m e
    let whole : Int := ((num + den - 1) / den : Nat)
    some (if negative then -whole else whole)
  | _ => none

/-- The integer that the value is, if it is one. -/
def toInt? (x : Binary64) : Option Int :=
  match x.wholePart with
  | some (whole, false) => some whole
  | _ => none

end Binary64

end DeviceRelay
