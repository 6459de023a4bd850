import DeviceRelay.Base64
import DeviceRelay.Text.LetterCase
import DeviceRelay.Text.Numeral
import DeviceRelay.Text.Segments
import DeviceRelay.Timestamp.Text
import DeviceRelay.Yaml.Data
import DeviceRelay.Yaml.Implicit

/-!
# What YAML scalars say

The kind of a scalar says how its text is to be read. A kind may be written as a tag in front of any text, so
that each reading may fail; most failures come out as they are. A torn text is of no kind but that of texts; read as
another it fails as a text does that has replacement characters in it.
-/

namespace DeviceRelay.Yaml

/-- The fault of a value that its kind does not know. -/
def valueFault (message : String) : Fault := .foreign "ValueError" message

/-- The fault of a scalar in which nothing is left to read. -/
def emptyFault : Fault := .foreign "IndexError" "string index out of range"

/-! ### Numbers -/

/-- A number in a base. -/
def wholeIn (base : Nat) (cs : List Char) : Except Fault Int :=
  (Text.readIntegerIn base (String.ofList cs)).mapError fun fault => valueFault fault.message

/-- A number whose parts, between colons, are digits to base sixty. -/
def sixtiesOf (cs : List Char) : Except Fault Int := do
  let parts ← (Text.splitChars [':'] cs).mapM (wholeIn 10)
  .ok (parts.foldl (fun n d => n * 60 + d) 0)

/-- An integer without its sign. -/
def unsignedInt (cs : List Char) : Except Fault Int :=
  match cs with
  | [] => .error emptyFault
  | ['0'] => .ok 0
  | '0' :: 'b' :: rest => wholeIn 2 rest
  | '0' :: 'x' :: rest => wholeIn 16 rest
  | '0' :: _ => wholeIn 8 cs
  | _ => if cs.contains ':' then sixtiesOf cs else wholeIn 10 cs

/-- An integer. -/
def intOf (text : String) : Except Fault Int :=
  match text.toList.filter (· != '_') with
  | [] => .error emptyFault
  | '-' :: rest => (unsignedInt rest).map fun n => -n
  | '+' :: rest => unsignedInt rest
  | cs => unsignedInt cs

/-- A floating-point number. -/
def decimalFloat (cs : List Char) : Except Fault Binary64 :=
  match Text.readFloat? (String.ofList cs) with
  | some x => .ok x
  | none =>
    .error (valueFault ("could not convert string to float: " ++ Text.quoted (String.ofList cs)))

/-- The sum of digits to base sixty, last first. Each power of sixty, each product and each sum is
rounded; a power beyond the greatest value is a fault. -/
def sixtiesSum : List Binary64 → Int → Binary64 → Except Fault Binary64
  | [], _, sum => .ok sum
  | d :: rest, power, sum =>
    match (Binary64.ofInt power).toInt? with
    | none => .error (.foreign "OverflowError" "int too large to convert to float")
    | some rounded => sixtiesSum rest (power * 60) (sum.add (d.scaleBy rounded))

/-- A floating-point number without its sign. -/
def unsignedFloat (cs : List Char) : Except Fault Binary64 :=
  if cs = ".inf".toList then .ok (.infinite false)
  else if cs = ".nan".toList then .ok .nan
  else if cs.contains ':' then do
    let parts ← (Text.splitChars [':'] cs).mapM decimalFloat
    sixtiesSum parts.reverse 1 .zero
  else decimalFloat cs

/-- A floating-point number. -/
def floatOf (text : String) : Except Fault Binary64 :=
  match (Text.lower text).toList.filter (· != '_') with
  | [] => .error emptyFault
  | '-' :: rest => (unsignedFloat rest).map Binary64.negate
  | '+' :: rest => unsignedFloat rest
  | cs => unsignedFloat cs

/-! ### Words and octets -/

/-- A truth value. -/
def boolOf (text : String) : Except Fault Bool :=
  let word := Text.lower text
  if trueWords.contains word then .ok true
  else if falseWords.contains word then .ok false
  else .error (.foreign "KeyError" (Text.quoted word))

/-- Octets, in digits to base sixty-four. -/
def bytesOf (text : String) : Except Fault Bytes :=
  if text.toList.all (·.toNat < 128) then
    match Base64.decode? text.toList with
    | some octets => .ok octets
    | none => .error .unreadable
  else .error .unreadable

/-! ### Dates -/

/-- A time of day as it is written. -/
structure WrittenTime where
  hour : Nat
  minute : Nat
  second : Nat
  micro : Nat
  /-- In seconds, if it is written. -/
  offset : Option Int

/-- A number of one or two digits, and what follows it. -/
def takeShortNumber? (cs : List Char) : Option (Nat × List Char) :=
  (Timestamp.takeNumber? 2 cs).or (Timestamp.takeNumber? 1 cs)

/-- The offset at the end of a time, in seconds. -/
def writtenOffset? (cs : List Char) : Option (Option Int) :=
  match cs.dropWhile isDateBlank with
  | [] => if cs.isEmpty then some none else none
  | ['Z'] => some (some 0)
  | sign :: cs => do
    let (hours, cs) ← takeShortNumber? cs
    let (minutes, cs) ← match cs with
      | ':' :: cs => Timestamp.takeNumber? 2 cs
      | _ => some (0, cs)
    let size : Int := (hours * 60 + minutes) * 60
    if !cs.isEmpty then none
    else if sign = '+' then some (some size)
    else if sign = '-' then some (some (-size))
    else none

/-- A time of day that makes up the whole of a text. -/
def writtenTime? (cs : List Char) : Option WrittenTime := do
  let (hour, cs) ← takeShortNumber? cs
  let (minute, cs) ← Timestamp.takeNumber? 2 (← takeChar? ':' cs)
  let (second, cs) ← Timestamp.takeNumber? 2 (← takeChar? ':' cs)
  match cs with
  | '.' :: cs =>
    let digits := cs.takeWhile Char.isDigit
    let micros := (digits ++ List.replicate (6 - digits.length) '0').take 6
    let offset ← writtenOffset? (cs.dropWhile Char.isDigit)
    some ⟨hour, minute, second, Binary64.digitsValue micros, offset⟩
  | _ => some ⟨hour, minute, second, 0, ← writtenOffset? cs⟩

/-- A date as it is written, perhaps with a time of day behind a blank or a letter. -/
def writtenDate? (cs : List Char) : Option (Date × Option WrittenTime) := do
  let (year, cs) ← Timestamp.takeNumber? 4 cs
  let (month, cs) ← takeShortNumber? (← takeChar? '-' cs)
  let (day, cs) ← takeShortNumber? (← takeChar? '-' cs)
  let date : Date := ⟨year, month, day⟩
  match cs with
  | [] => some (date, none)
  | c :: rest =>
    if c = 'T' ∨ c = 't' then some (date, some (← writtenTime? rest))
    else if isDateBlank c then some (date, some (← writtenTime? (rest.dropWhile isDateBlank)))
    else none

/-- An offset in seconds is less than a day. -/
def checkOffset (offset : Option Int) : Except Fault Unit :=
  match offset with
  | some seconds =>
    if 86400 ≤ seconds.natAbs then
      .error (valueFault ("offset must be a timedelta strictly between -timedelta(hours=24) and " ++
        "timedelta(hours=24), not " ++ Timestamp.spanCall (seconds * 1000000) ++ "."))
    else .ok ()
  | none => .ok ()

/-- A date lies in the calendar. -/
def checkDate (d : Date) : Except Fault Unit :=
  if d.year = 0 then .error (valueFault "year 0 is out of range")
  else if d.month = 0 ∨ 12 < d.month then .error (valueFault "month must be in 1..12")
  else if d.day = 0 ∨ Date.daysIn d.year d.month < d.day then
    .error (valueFault "day is out of range for month")
  else .ok ()

/-- A time of day lies on the clock. -/
def checkTime (t : WrittenTime) : Except Fault Unit :=
  if 23 < t.hour then .error (valueFault "hour must be in 0..23")
  else if 59 < t.minute then .error (valueFault "minute must be in 0..59")
  else if 59 < t.second then .error (valueFault "second must be in 0..59")
  else .ok ()

/-- A date, or a date and a time. -/
def dateOf (text : String) : Except Fault Data :=
  match writtenDate? (withoutLineFeed text).toList with
  | none => .error (.foreign "AttributeError" "'NoneType' object has no attribute 'groupdict'")
  | some (date, none) => do
    checkDate date
    .ok (.date date)
  | some (date, some time) => do
    checkOffset time.offset
    checkDate date
    checkTime time
    .ok (.instant (.ofParts date time.hour time.minute time.second time.micro
      (time.offset.map (· * 1000000))))

/-- The data of a text, if the kind is one of scalars. -/
def literal? (kind : Kind) (text : LooseText) : Option (Except Fault Data) :=
  match kind with
  | .null => some (.ok .null)
  | .bool => some ((boolOf text.repaired).map .bool)
  | .int => some ((intOf text.repaired).map .int)
  | .float => some ((floatOf text.repaired).map .float)
  | .timestamp => some (dateOf text.repaired)
  | .binary => some ((bytesOf text.repaired).map .bytes)
  | .text => some (.ok (.ofText text))
  | .sequence | .mapping | .set | .pairs | .merge | .default | .unknown => none

end DeviceRelay.Yaml
