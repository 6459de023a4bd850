import DeviceRelay.Failure
import DeviceRelay.Text.Numeral

/-!
# Delays

The time to wait between two attempts comes as a value, meant for a number of seconds. It doubles from
attempt to attempt; of a text or a row, doubling makes more copies. A value of another kind cannot double.
A delay is announced before it begins, so a number has to be one that may be written out. Then it is slept
through, by a timer that counts nanoseconds in 64 bits.

    Delay ──doubled──▶ Delay ──announce──▶ · ──nanoseconds──▶ Nat ──rest──▶ ·
-/

namespace DeviceRelay.Broker

/-- A time to wait. -/
abbrev Delay := Value

namespace Delay

/-- So many copies of a row, one behind the other. -/
def copies {α : Type} (times : Nat) (row : List α) : List α := (List.replicate times row).flatten

/-- What is said of a value that cannot be multiplied. -/
def notNumber (v : Value) : Failure :=
  .unexpected "TypeError" s!"unsupported operand type(s) for *: '{v.kindName}' and 'int'"

/-- The delay after it has doubled some times. -/
def doubled (times : Nat) : Delay → Except Failure Delay
  | .bool b => .ok (.int (b.toNat * Nat.pow 2 times : Nat))
  | .int seconds => .ok (.int (seconds * Nat.pow 2 times))
  | .float seconds => .ok (.float (seconds.scaleBy (Nat.pow 2 times)))
  | .text s => .ok (.text (String.ofList (copies (Nat.pow 2 times) s.toList)))
  | .bytes b => .ok (.bytes (copies (Nat.pow 2 times) b))
  | .buffer b => .ok (.buffer (copies (Nat.pow 2 times) b))
  | .list items => .ok (.list (copies (Nat.pow 2 times) items))
  | .tuple items => .ok (.tuple (copies (Nat.pow 2 times) items))
  | v => .error (notNumber v)

/-- Announce a delay, which a number of too many digits does not allow. -/
def announce : Delay → Except Failure Unit
  | .int seconds =>
    if Text.isWritable seconds then .ok () else .error (.unexpected "ValueError" Text.unwritableMessage)
  | _ => .ok ()

/-! ### Sleeping -/

/-- The first number of nanoseconds that a timer does not count any more. -/
def timerLimit : Int := 0x8000000000000000

/-- A number of nanoseconds that the timer counts, and not below zero; `beyond` is what is said of one that it does
not count. -/
def timed (beyond : String) (count : Int) : Except Failure Nat :=
  if count < -timerLimit ∨ timerLimit ≤ count then .error (.unexpected "OverflowError" beyond)
  else if count < 0 then .error (.unexpected "ValueError" "sleep length must be non-negative")
  else .ok count.toNat

/-- What is said of too many whole seconds. -/
def beyondWhole : String := "timestamp too large to convert to C _PyTime_t"

/-- What is said of too many seconds in floating point. -/
def beyondFloat : String := "timestamp out of range for platform time_t"

/-- How many nanoseconds a delay lasts. A number in floating point is multiplied as such, and a part of a nanosecond
counts as one more. -/
def nanoseconds : Delay → Except Failure Nat
  | .bool b => timed beyondWhole (b.toNat * 1000000000)
  | .int seconds => timed beyondWhole (seconds * 1000000000)
  | .float .nan => .error (.unexpected "ValueError" "Invalid value NaN (not a number)")
  | .float seconds =>
    match (seconds.scaleBy 1000000000).awayFromZero? with
    | some count => timed beyondFloat count
    | none => .error (.unexpected "OverflowError" beyondFloat)
  | v => .error (.unexpected "TypeError" s!"'{v.kindName}' object cannot be interpreted as an integer")

/-- Sleep through a delay; `rest` is what comes of waiting so many nanoseconds. -/
def sleep (rest : Nat → Except Failure Unit) (d : Delay) : Except Failure Unit := do
  rest (← d.nanoseconds)

/-- Announce a delay and sleep through it. -/
def waitOut (sleep : Delay → Except Failure Unit) (d : Delay) : Except Failure Unit := do
  d.announce
  sleep d

end Delay

end DeviceRelay.Broker
