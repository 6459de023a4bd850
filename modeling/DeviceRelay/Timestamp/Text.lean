import DeviceRelay.Timestamp
import DeviceRelay.Binary64.Text
import DeviceRelay.Text.Quoted

/-!
# Timestamps in text and as numbers

A timestamp is written `YYYY-MM-DDTHH:MM:SS`, with six digits of a second only if there are any, and
with the offset. Two forms differ in how an offset of zero is written: `Z` in a message, `+00:00` in a
published value. In words a blank parts the date from the time, and where the kind of a value is to be
seen a timestamp is written as the call that makes it.

Reading takes a date, or a date and a time with an optional offset; or a number of seconds, which
counts as milliseconds when it is too large for seconds.
-/

namespace DeviceRelay.Timestamp

/-- `width` decimal digits of `n`. -/
def padded (width n : Nat) : String :=
  let digits := Nat.toDigits 10 n
  String.ofList (List.replicate (width - digits.length) '0' ++ digits)

/-- A date as year, month and day. -/
def dateText (d : Date) : String :=
  padded 4 d.year.toNat ++ "-" ++ padded 2 d.month ++ "-" ++ padded 2 d.day

/-- The clock's time of day. -/
def clockText (t : Timestamp) : String :=
  let micros := t.timeOfDay
  let seconds := micros / 1000000
  let fraction := if micros % 1000000 = 0 then "" else "." ++ padded 6 (micros % 1000000)
  padded 2 (seconds / 3600) ++ ":" ++ padded 2 (seconds / 60 % 60) ++ ":" ++
    padded 2 (seconds % 60) ++ fraction

/-- The clock's date and time of day. -/
def wallText (t : Timestamp) : String := dateText t.date ++ "T" ++ t.clockText

/-- An offset as sign, hours and minutes, and further down only if there is anything further down. -/
def offsetText (offset : Int) : String :=
  let micros := offset.natAbs
  let seconds := micros / 1000000
  let fraction := if micros % 1000000 = 0 then "" else "." ++ padded 6 (micros % 1000000)
  (if offset < 0 then "-" else "+") ++ padded 2 (seconds / 3600) ++ ":" ++
    padded 2 (seconds / 60 % 60) ++
    if micros % 60000000 = 0 then "" else ":" ++ padded 2 (seconds % 60) ++ fraction

/-- The form in messages: `Z` for universal time, nothing for an unknown offset. -/
def text (t : Timestamp) : String :=
  t.wallText ++ match t.offset with
    | none => ""
    | some 0 => "Z"
    | some offset => offsetText offset

/-- The form in published values: an offset is always written out. -/
def isoText (t : Timestamp) : String := t.wallText ++ (t.offset.map offsetText).getD ""

/-- The form in words: a blank parts the date from the time. -/
def spacedText (t : Timestamp) : String :=
  dateText t.date ++ " " ++ t.clockText ++ (t.offset.map offsetText).getD ""

/-- A span of time as the call that makes it: days, and seconds and microseconds not below zero. -/
def spanCall (micros : Int) : String :=
  let part (name : String) (n : Int) : List String := if n = 0 then [] else [name ++ "=" ++ toString n]
  "datetime.timedelta(" ++
    ", ".intercalate (part "days" (micros.fdiv dayMicros) ++
      part "seconds" ((micros.fmod dayMicros).fdiv 1000000) ++ part "microseconds" (micros.fmod 1000000)) ++ ")"

/-- An offset as the call that makes it. -/
def offsetCall (offset : Int) : String :=
  if offset = 0 then "datetime.timezone.utc" else "datetime.timezone(" ++ spanCall offset ++ ")"

/-- A timestamp as the call that makes it. Seconds and microseconds are left out where they, and what would follow
them, are zero. -/
def call (t : Timestamp) : String :=
  let micros := t.timeOfDay
  let minutes := micros / 60000000
  let rest := [micros / 1000000 % 60, micros % 1000000]
  let numbers := [t.date.year.toNat, t.date.month, t.date.day, minutes / 60, minutes % 60] ++
    (rest.reverse.dropWhile (· == 0)).reverse
  "datetime.datetime(" ++
    ", ".intercalate (numbers.map toString ++ (t.offset.map fun offset => "tzinfo=" ++ offsetCall offset).toList) ++
    ")"

example : (ofParts ⟨2024, 1, 2⟩ 3 4 0 5 (some (-18000000000))).call =
    "datetime.datetime(2024, 1, 2, 3, 4, 0, 5, tzinfo=datetime.timezone(datetime.timedelta(days=-1, seconds=68400)))" := by
  decide +kernel

/-! ### Reading -/

/-- Why a value is no timestamp. -/
inductive ReadFault where
  /-- The text is neither a timestamp nor a date. -/
  | badText
  /-- The number is no time of the years 0 to 9999. -/
  | badNumber
  /-- A time of the year 0, which can be told but has no place in the calendar. -/
  | yearZero
  deriving Repr, DecidableEq

/-- A number of exactly `width` digits, and what follows it. -/
def takeNumber? (width : Nat) (cs : List Char) : Option (Nat × List Char) :=
  let digits := cs.take width
  if digits.length = width ∧ digits.all Char.isDigit then
    some (Binary64.digitsValue digits, cs.drop width)
  else none

/-- What follows one of the given marks. -/
def takeMark? (marks : List Char) : List Char → Option (List Char)
  | c :: rest => if marks.contains c then some rest else none
  | [] => none

/-- A date, and what follows it. -/
def takeDate? (cs : List Char) : Option (Date × List Char) := do
  let (year, cs) ← takeNumber? 4 cs
  let cs ← takeMark? ['-'] cs
  let (month, cs) ← takeNumber? 2 cs
  let cs ← takeMark? ['-'] cs
  let (day, cs) ← takeNumber? 2 cs
  let date : Date := ⟨year, month, day⟩
  if date.isValid then some (date, cs) else none

/-- An offset that makes up the whole of a text: none, the letter Z, or a sign with hours and
minutes. -/
def readOffset? : List Char → Option (Option Int)
  | [] => some none
  | ['Z'] | ['z'] => some (some 0)
  | sign :: cs => do
    let (hours, cs) ← takeNumber? 2 cs
    let (minutes, cs) ← takeNumber? 2 ((takeMark? [':'] cs).getD cs)
    let size : Int := (hours * 60 + minutes) * 60000000
    if !cs.isEmpty || 60 ≤ minutes || 24 ≤ hours then none
    else if sign = '+' then some (some size)
    else if sign = '-' ∨ sign = '\u2212' then some (some (-size))
    else none

/-- Digits of a second behind its point, to the microsecond, and what follows them. -/
def takeFraction? (cs : List Char) : Option (Nat × List Char) :=
  let digits := cs.takeWhile Char.isDigit
  if digits.isEmpty then none
  else
    let micros := (digits ++ List.replicate (6 - digits.length) '0').take 6
    some (Binary64.digitsValue micros, cs.dropWhile Char.isDigit)

/-- Seconds and microseconds, both zero if no colon begins them. -/
def takeSeconds? (cs : List Char) : Option (Nat × Nat × List Char) :=
  match cs with
  | ':' :: cs => do
    let (second, cs) ← takeNumber? 2 cs
    match takeMark? ['.', ','] cs with
    | none => some (second, 0, cs)
    | some cs =>
      let (micro, cs) ← takeFraction? cs
      some (second, micro, cs)
  | _ => some (0, 0, cs)

/-- A time of day with an optional offset, after a date. -/
def readTime? (date : Date) (cs : List Char) : Option Timestamp := do
  let (hour, cs) ← takeNumber? 2 cs
  let cs ← takeMark? [':'] cs
  let (minute, cs) ← takeNumber? 2 cs
  let (second, micro, cs) ← takeSeconds? cs
  let offset ← readOffset? cs
  if 24 ≤ hour ∨ 60 ≤ minute ∨ 60 ≤ second then none
  else some (ofParts date hour minute second micro offset)

/-- A date at midnight, or a date and a time. -/
def readCalendar? (cs : List Char) : Option Timestamp := do
  let (date, cs) ← takeDate? cs
  match cs with
  | [] => some (ofParts date 0 0 0 0 none)
  | _ =>
    let cs ← takeMark? ['T', 't', ' ', '_'] cs
    readTime? date cs

/-- The greatest number that counts as seconds. -/
def secondsLimit : Nat := 20000000000

/-- The first microsecond of the year 0. -/
def yearZeroMicro : Int := -62167219200000000

/-- The time so many microseconds after 1970, if it lies in the calendar. -/
def ofMicros (micros : Int) : Except ReadFault Timestamp :=
  if micros < yearZeroMicro ∨ lastMicro < micros then .error .badNumber
  else if micros < firstMicro then .error .yearZero
  else .ok (utc micros)

/-- The microseconds in a unit of a number of that size: a second, or a millisecond if the number
`num / den` is too large for seconds. -/
def unitMicros (num : Int) (den : Nat) : Nat :=
  if secondsLimit * den < num.natAbs then 1000 else 1000000

/-- An integer as a timestamp. -/
def ofUnix (number : Int) : Except ReadFault Timestamp :=
  ofMicros (number * unitMicros number 1)

/-- The whole number nearest to a finite value, an exact half rounded up. -/
def nearestUp (x : Binary64) : Int :=
  match x.quotient? with
  | some (num, den) => (2 * num + den).fdiv (2 * den)
  | none => 0

/-- A binary64 number as a timestamp: the whole units below it, and what it has beyond them rounded
to the microsecond. -/
def ofFloat (x : Binary64) : Except ReadFault Timestamp :=
  match x.quotient? with
  | none => .error .badNumber
  | some (num, den) =>
    let unit := unitMicros num den
    let floor := num.fdiv den
    let fraction := x.add (Binary64.ofInt (-floor))
    ofMicros (floor * unit + nearestUp (fraction.scaleBy unit))

/-- A number in text: digits with an optional sign, and only behind a point an exponent. -/
def readNumber? (cs : List Char) : Option (Except ReadFault Timestamp) :=
  let (negative, body) := Binary64.takeSign cs
  if body.contains '.' then (Binary64.readDecimal? negative body).map ofFloat
  else if body.isEmpty || !body.all Char.isDigit then none
  else
    let size : Int := Binary64.digitsValue body
    some (ofUnix (if negative then -size else size))

/-- The timestamp that a text spells. -/
def read (s : String) : Except ReadFault Timestamp :=
  match readCalendar? s.toList with
  | some t => if t.wall < firstMicro then .error .yearZero else .ok t
  | none =>
    match readNumber? s.toList with
    | some (.error .badNumber) | none => .error .badText
    | some result => result

end DeviceRelay.Timestamp
