import DeviceRelay.Fault
import DeviceRelay.Value

/-!
# Response codes

A reply says how the request went by one of four numbers. The number may come as an integer, as a
floating-point number without a fraction, or in text. A reply without a code was accepted.
-/

namespace DeviceRelay

/-- How a request went. -/
inductive ResponseCode where
  | accepted
  | badRequest
  | notFound
  | internalError
  deriving Repr, DecidableEq

namespace ResponseCode

/-- The name of a code. -/
def text : ResponseCode → String
  | .accepted => "ACCEPTED"
  | .badRequest => "BAD_REQUEST"
  | .notFound => "NOT_FOUND"
  | .internalError => "INTERNAL_ERROR"

/-- The number that a device sends for a code. -/
def number : ResponseCode → Int
  | .accepted => 200
  | .badRequest => 400
  | .notFound => 404
  | .internalError => 500

/-- The code of a number. -/
def ofNumber? (n : Int) : Option ResponseCode :=
  if n = 200 then some .accepted
  else if n = 400 then some .badRequest
  else if n = 404 then some .notFound
  else if n = 500 then some .internalError
  else none

/-- The metric that holds the code. -/
def metric : String := "response.code"

/-- The integer that a value stands for. -/
def numberOf (v : Value) : Except Fault Int :=
  match v with
  | .bool _ => .error (.envelope (.codeNotNumber v))
  | .int n => .ok n
  | .float x =>
    match x.toInt? with
    | some n => .ok n
    | none => .error (.envelope (.codeNotInteger v))
  | .text s =>
    if Text.isDecimal (Text.trim s.toList) then (Text.readInteger s).mapError .numeral
    else .error (.envelope (.codeNotInteger v))
  | _ => .error (.naming v (.envelope (.codeNotInteger v)))

/-- The code that the metrics of a reply hold. -/
def read (metrics : Dictionary Value) : Except Fault ResponseCode :=
  match metrics.get? metric with
  | none | some .null => .ok .accepted
  | some v => do
    let n ← numberOf v
    match ofNumber? n with
    | some code => .ok code
    | none => .error (.naming (.int n) (.envelope (.unsupportedCode n)))

theorem ofNumber?_number (code : ResponseCode) : ofNumber? code.number = some code := by
  cases code <;> rfl

end ResponseCode

end DeviceRelay
