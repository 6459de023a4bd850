import DeviceRelay.Timestamp
import DeviceRelay.Binary64

/-!
# Timestamps from epoch milliseconds

A device gives the dates of a certificate in milliseconds since 1970. The number is divided by a
thousand in binary64 arithmetic, so the seconds carry the noise of that format; the fraction is then
rounded to whole microseconds, an exact half to the even one.

    milliseconds ──÷ 1000──▶ seconds ──split──▶ whole seconds + microseconds ──▶ Timestamp

Four steps may refuse the number: the quotient, the count of seconds, the year as a machine integer
and the year of the calendar.
-/

namespace DeviceRelay

/-- Why a number of milliseconds is no date. -/
inductive EpochFault where
  /-- The quotient is beyond the greatest binary64 value. -/
  | quotientTooLarge
  /-- The seconds do not fit 64 bits. -/
  | secondsOutOfRange
  /-- The year does not fit 32 bits. -/
  | yearUnrepresentable
  /-- The year is not among 1 to 9999. -/
  | yearOutOfRange (year : Int)
  deriving Repr, DecidableEq

/-- The text of a fault. -/
def EpochFault.message : EpochFault → String
  | .quotientTooLarge => "integer division result too large for a float"
  | .secondsOutOfRange => "timestamp out of range for platform time_t"
  | .yearUnrepresentable => "[Errno 75] Value too large for defined data type"
  | .yearOutOfRange year => s!"year {year} is out of range"

namespace Timestamp

/-- The microseconds of a fraction `num / den` below one: the fraction times a million in binary64
arithmetic, then the nearest whole number. -/
def fractionMicros (num den : Nat) : Nat := (Binary64.nearest false (num * 1000000) den).rounded

/-- Whole seconds and microseconds below a million of a quotient, rounded to the microsecond. -/
def splitSeconds (negative : Bool) (num den : Nat) : Int × Nat :=
  let whole : Int := (num / den : Nat)
  let micros := fractionMicros (num % den) den
  if negative then
    if micros = 0 then (-whole, 0) else (-whole - 1, 1000000 - micros)
  else if 1000000 ≤ micros then (whole + 1, micros - 1000000)
  else (whole, micros)

/-- The timestamp of universal time at so many seconds and microseconds. The bound above is a binary64
number, which is one more than the greatest of 64 bits; its year is refused in any case. -/
def ofSeconds (seconds : Int) (micros : Nat) : Except EpochFault Timestamp :=
  if seconds < -0x8000000000000000 ∨ 0x8000000000000000 < seconds then .error .secondsOutOfRange
  else
    let year := (Date.ofDays (seconds.fdiv 86400)).year
    if year - 1900 < -0x80000000 ∨ 0x80000000 ≤ year - 1900 then .error .yearUnrepresentable
    else if year < 1 ∨ 9999 < year then .error (.yearOutOfRange (year.bmod 0x100000000))
    else .ok (utc (seconds * 1000000 + micros))

/-- The timestamp of universal time at so many milliseconds after 1970. -/
def ofEpochMillis (millis : Int) : Except EpochFault Timestamp :=
  match Binary64.nearest (millis < 0) millis.natAbs 1000 with
  | .finite negative m e _ =>
    let (num, den) := Binary64.scaled m e
    let (seconds, micros) := splitSeconds negative num den
    ofSeconds seconds micros
  | _ => .error .quotientTooLarge

end Timestamp

end DeviceRelay
