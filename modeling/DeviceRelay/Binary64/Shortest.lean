import DeviceRelay.Binary64

/-!
# The shortest decimal of a binary64 value

A value is written with the fewest digits that read back to it. For one digit, two digits and so on,
the two neighbours of the value on the decimal grid of that many digits are tried; the first grid
with a neighbour that reads back decides, of two the nearer, and of two equally near the even one.
Reading is `Binary64.ofDecimal`, so that what is written reads back by construction.
-/

namespace DeviceRelay.Binary64

/-- The decimal `digits · 10 ^ exponent`. -/
structure Decimal where
  digits : Nat
  exponent : Int
  deriving Repr, DecidableEq

/-- How many digits the quotient has in front of its point: the least `p` with `num / den < 10 ^ p`. -/
def pointOf (num den : Nat) : Int :=
  let guess : Int := (((num.log2 : Int) - den.log2 - 1) * 30103) / 100000
  let below (p : Int) : Bool := num * Nat.pow 10 (-p).toNat < den * Nat.pow 10 p.toNat
  (([guess - 1, guess, guess + 1, guess + 2] : List Int).find? below).getD (guess + 3)

/-- The neighbour of `num / den` on the grid `10 ^ exponent` that reads back to `x`. -/
def neighbour? (x : Binary64) (negative : Bool) (num den : Nat) (exponent : Int) : Option Decimal :=
  let (a, b) := (num * Nat.pow 10 (-exponent).toNat, den * Nat.pow 10 exponent.toNat)
  let low := a / b
  let readsBack (digits : Nat) : Bool := ofDecimal negative digits exponent = x
  match readsBack low, readsBack (low + 1) with
  | true, true => some ⟨roundHalfEven a b, exponent⟩
  | true, false => some ⟨low, exponent⟩
  | false, true => some ⟨low + 1, exponent⟩
  | false, false => none

/-- The exact decimal of a significand and a power of two. -/
def exactDecimal (significand : Nat) (exponent : Int) : Decimal :=
  if 0 ≤ exponent then ⟨significand * Nat.pow 2 exponent.toNat, 0⟩
  else ⟨significand * Nat.pow 5 (-exponent).toNat, exponent⟩

/-- Move trailing zeros of the digits into the exponent. -/
def Decimal.trimmed (d : Decimal) : Decimal :=
  if d.digits ≠ 0 ∧ d.digits % 10 = 0 then
    Decimal.trimmed ⟨d.digits / 10, d.exponent + 1⟩
  else d
termination_by d.digits
decreasing_by exact Nat.div_lt_self (by omega) (by decide)

/-- The shortest decimal of a finite value; none of the others has one. -/
def shortest? (x : Binary64) : Option (Bool × Decimal) :=
  match x with
  | .finite negative m e _ =>
    if m = 0 then some (negative, ⟨0, 0⟩)
    else
      let (num, den) := scaled m e
      let point := pointOf num den
      let found := (List.range 17).findSome? fun (n : Nat) =>
        neighbour? x negative num den (point - (n + 1))
      some (negative, (found.getD (exactDecimal m e)).trimmed)
  | _ => none

end DeviceRelay.Binary64
