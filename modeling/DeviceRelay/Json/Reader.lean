import DeviceRelay.Json
import DeviceRelay.Json.Token

/-!
# Reading JSON texts

The reader takes one token at a time. It knows what is due next, and it keeps one frame for each
array or object around that place, innermost first; a frame holds what has been read of it, last
first. Empty containers never get a frame, so the number of frames is the depth that limits count.

    run (value due, frames) (tokens of v ++ rest) = run (v just read, frames) rest

Limits may be set on the depth, on the digits of an integer and on those that another number has in
front of its point.
-/

namespace DeviceRelay.Json

/-- What a reader refuses beyond bad syntax; `none` is no limit. -/
structure Limits where
  depth : Option Nat
  /-- For integers. -/
  digits : Option Nat
  /-- For other numbers. -/
  wholeDigits : Option Nat

/-- Why a text is refused. -/
inductive Fault where
  | malformed
  | tooDeep
  | tooManyDigits (digits : Nat)
  deriving Repr, DecidableEq

/-- A container under way. -/
inductive Frame where
  /-- The items so far. -/
  | array (front : List Json)
  /-- The members so far, and the name whose value is due. -/
  | object (front : List (String × Json)) (name : String)

/-- What may come next. -/
inductive Due where
  /-- A value. -/
  | value
  /-- The first item of an array, or its end. -/
  | firstItem
  /-- The first name of an object, or its end. -/
  | firstName
  /-- A name, after these members. -/
  | name (front : List (String × Json))
  /-- The colon behind a name. -/
  | colon (front : List (String × Json)) (name : String)
  /-- What follows a value. -/
  | after (value : Json)

/-- Open a frame, if the depth allows it. -/
def open? (limits : Limits) (frame : Frame) (frames : List Frame) : Except Fault (List Frame) :=
  match limits.depth with
  | some depth => if depth ≤ frames.length then .error .tooDeep else .ok (frame :: frames)
  | none => .ok (frame :: frames)

/-- A number with so many digits in front of its point, if they are few enough. -/
def number (limit : Option Nat) (digits : Nat) (v : Json) : Except Fault Json :=
  match limit with
  | some limit => if limit < digits then .error (.tooManyDigits digits) else .ok v
  | none => .ok v

/-- A token where a value is due. -/
def readValue (limits : Limits) (t : Token) : Except Fault Due :=
  match t with
  | .null => .ok (.after .null)
  | .bool b => .ok (.after (.bool b))
  | .int n digits => (number limits.digits digits (.int n)).map .after
  | .float x digits => (number limits.wholeDigits digits (.float x)).map .after
  | .str s => .ok (.after (.str s))
  | .openArray => .ok .firstItem
  | .openObject => .ok .firstName
  | _ => .error .malformed

/-- A token behind a value, inside the innermost frame. -/
def readAfter (v : Json) : List Frame → Token → Except Fault (Due × List Frame)
  | .array front :: frames, .comma => .ok (.value, .array (v :: front) :: frames)
  | .array front :: frames, .closeArray => .ok (.after (.arr (v :: front).reverse), frames)
  | .object front name :: frames, .comma => .ok (.name ((name, v) :: front), frames)
  | .object front name :: frames, .closeObject =>
    .ok (.after (.obj ((name, v) :: front).reverse), frames)
  | _, _ => .error .malformed

/-- Take one token. -/
def step (limits : Limits) (due : Due) (frames : List Frame) (t : Token) :
    Except Fault (Due × List Frame) :=
  match due with
  | .value => (readValue limits t).map (·, frames)
  | .firstItem =>
    if t = .closeArray then .ok (.after (.arr []), frames)
    else do
      let frames ← open? limits (.array []) frames
      let due ← readValue limits t
      .ok (due, frames)
  | .firstName =>
    match t with
    | .closeObject => .ok (.after (.obj []), frames)
    | .str name => .ok (.colon [] name, frames)
    | _ => .error .malformed
  | .name front =>
    match t with
    | .str name => .ok (.colon front name, frames)
    | _ => .error .malformed
  | .colon front name =>
    if t = .colon then (open? limits (.object front name) frames).map (.value, ·)
    else .error .malformed
  | .after v => readAfter v frames t

/-- Take all tokens. -/
def run (limits : Limits) : Due → List Frame → List Token → Except Fault Json
  | .after v, [], [] => .ok v
  | _, _, [] => .error .malformed
  | due, frames, t :: rest =>
    match step limits due frames t with
    | .ok (due, frames) => run limits due frames rest
    | .error fault => .error fault

/-- The value that a row of tokens spells. -/
def ofTokens (limits : Limits) (tokens : List Token) : Except Fault Json :=
  run limits .value [] tokens

/-- The value that a text spells. -/
def read (limits : Limits) (text : List Char) : Except Fault Json :=
  ofTokens limits (Token.lex text)

end DeviceRelay.Json
