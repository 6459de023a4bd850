import DeviceRelay.Timestamp.Calendar

/-!
# Timestamps

A timestamp is what a clock on the wall shows, to the microsecond, and how far that clock is ahead of
universal time, if that is known. Two timestamps with an offset name the same instant when
`wall - offset` agrees.
-/

namespace DeviceRelay

/-- A date and time of day. -/
structure Timestamp where
  /-- Microseconds from 1970-01-01T00:00:00 to what the clock shows. -/
  wall : Int
  /-- Microseconds by which the clock is ahead of universal time. -/
  offset : Option Int
  deriving Repr, DecidableEq

namespace Timestamp

/-- Microseconds in a day. -/
def dayMicros : Int := 86400000000

/-- The first microsecond of the year 1. -/
def firstMicro : Int := -62135596800000000

/-- The last microsecond of the year 9999. -/
def lastMicro : Int := 253402300799999999

/-- A timestamp of universal time. -/
def utc (micros : Int) : Timestamp := ⟨micros, some 0⟩

/-- A timestamp from its parts. -/
def ofParts (date : Date) (hour minute second micro : Nat) (offset : Option Int) : Timestamp :=
  ⟨date.days * dayMicros + ((hour * 60 + minute) * 60 + second : Nat) * 1000000 + micro, offset⟩

/-- The date that the clock shows. -/
def date (t : Timestamp) : Date := Date.ofDays (t.wall.fdiv dayMicros)

/-- The microseconds since midnight that the clock shows. -/
def timeOfDay (t : Timestamp) : Nat := (t.wall.fmod dayMicros).toNat

end Timestamp

end DeviceRelay
