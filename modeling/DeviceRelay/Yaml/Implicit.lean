import DeviceRelay.Text.Segments
import DeviceRelay.Yaml.Cursor
import DeviceRelay.Yaml.Kind

/-!
# What a plain scalar stands for

A plain scalar is a text unless it looks like something else: nothing, a truth value, a number, a date,
or one of two marks of mappings. The looks are those of YAML 1.1, where `yes` and `off` are truth
values, digits may have underscores among them, and numbers to base sixty have colons.
-/

namespace DeviceRelay.Yaml

/-- The words for nothing. -/
def nullWords : List String := ["", "~", "null", "Null", "NULL"]

/-- The words for truth. -/
def trueWords : List String := ["yes", "Yes", "YES", "true", "True", "TRUE", "on", "On", "ON"]

/-- The words for falsehood. -/
def falseWords : List String :=
  ["no", "No", "NO", "false", "False", "FALSE", "off", "Off", "OFF"]

/-- A digit or an underscore. -/
def isLoose (c : Char) : Bool := c.isDigit || c == '_'

/-- A non-empty run of characters that satisfy `p`. -/
def isRun (p : Char → Bool) (cs : List Char) : Bool := !cs.isEmpty && cs.all p

/-- What follows a leading sign. -/
def dropSign : List Char → List Char
  | '+' :: rest | '-' :: rest => rest
  | cs => cs

/-- Digits up to sixty, between colons. -/
def isSixtieth : List Char → Bool
  | [d] => d.isDigit
  | [t, d] => '0' ≤ t && t ≤ '5' && d.isDigit
  | _ => false

/-- Parts to base sixty, each behind a colon; at least one. -/
def isSixties (cs : List Char) : Bool :=
  match Text.splitChars [':'] cs with
  | [] :: parts => !parts.isEmpty && parts.all isSixtieth
  | _ => false

/-- The looks of an integer: base two, eight, ten, sixteen or sixty. -/
def looksInt (cs : List Char) : Bool :=
  match dropSign cs with
  | ['0'] => true
  | '0' :: 'b' :: rest => isRun (fun c => c == '0' || c == '1' || c == '_') rest
  | '0' :: 'x' :: rest =>
    isRun (fun c => c.isDigit || ('a' ≤ c && c ≤ 'f') || ('A' ≤ c && c ≤ 'F') || c == '_') rest
  | '0' :: rest => isRun (fun c => ('0' ≤ c && c ≤ '7') || c == '_') rest
  | d :: rest =>
    let tail := rest.dropWhile isLoose
    d.isDigit && (tail.isEmpty || isSixties tail)
  | [] => false

/-- The looks of a power of ten behind a fraction, or of nothing. -/
def looksExponent : List Char → Bool
  | [] => true
  | e :: sign :: digits =>
    (e == 'e' || e == 'E') && (sign == '+' || sign == '-') && isRun Char.isDigit digits
  | _ => false

/-- The looks of a number to base sixty with a point behind it. -/
def looksSixtiesFloat (cs : List Char) : Bool :=
  let whole := cs.takeWhile (· != '.')
  match cs.dropWhile (· != '.') with
  | '.' :: fraction =>
    match whole with
    | d :: rest =>
      d.isDigit && isSixties (rest.dropWhile isLoose) && fraction.all isLoose
    | [] => false
  | _ => false

/-- The looks of a number with a point. -/
def looksFloat (cs : List Char) : Bool :=
  match cs with
  | '.' :: d :: rest =>
    [".nan", ".NaN", ".NAN", ".inf", ".Inf", ".INF"].contains (String.ofList cs) ||
      (d.isDigit && looksExponent (rest.dropWhile isLoose))
  | _ =>
    match dropSign cs with
    | '.' :: rest => ["inf", "Inf", "INF"].contains (String.ofList rest)
    | d :: rest =>
      d.isDigit &&
        match rest.dropWhile isLoose with
        | '.' :: tail => looksExponent (tail.dropWhile isLoose)
        | tail => tail.head? == some ':' && looksSixtiesFloat (d :: rest)
    | [] => false

/-- One or two digits, and what follows them. -/
def takeShort? : List Char → Option (List Char)
  | a :: b :: rest =>
    if a.isDigit then (if b.isDigit then some rest else some (b :: rest)) else none
  | [a] => if a.isDigit then some [] else none
  | [] => none

/-- `n` digits, and what follows them. -/
def takeDigits? (n : Nat) (cs : List Char) : Option (List Char) :=
  if (cs.take n).length = n ∧ (cs.take n).all Char.isDigit then some (cs.drop n) else none

/-- What follows a given character. -/
def takeChar? (c : Char) : List Char → Option (List Char)
  | d :: rest => if c = d then some rest else none
  | [] => none

/-- A blank that may stand in a date. -/
def isDateBlank (c : Char) : Bool := c == ' ' || c == '\t'

/-- The looks of an offset, or of nothing. -/
def looksOffset (cs : List Char) : Bool :=
  cs.isEmpty ||
    match cs.dropWhile isDateBlank with
    | ['Z'] => true
    | sign :: rest =>
      (sign == '+' || sign == '-') &&
        match takeShort? rest with
        | some [] => true
        | some (':' :: tail) => takeDigits? 2 tail == some []
        | _ => false
    | [] => false

/-- The looks of a time of day with an optional offset. -/
def looksTime (cs : List Char) : Bool :=
  let found := do
    let cs ← takeShort? cs
    let cs ← takeDigits? 2 (← takeChar? ':' cs)
    takeDigits? 2 (← takeChar? ':' cs)
  match found with
  | some ('.' :: rest) => looksOffset (rest.dropWhile Char.isDigit)
  | some rest => looksOffset rest
  | none => false

/-- The looks of a date, or of a date and a time. -/
def looksTimestamp (cs : List Char) : Bool :=
  let strict := do
    let cs ← takeDigits? 2 (← takeChar? '-' (← takeDigits? 4 cs))
    takeDigits? 2 (← takeChar? '-' cs)
  let loose := do
    let cs ← takeShort? (← takeChar? '-' (← takeDigits? 4 cs))
    takeShort? (← takeChar? '-' cs)
  strict == some [] ||
    match loose with
    | some (c :: rest) =>
      if c == 'T' || c == 't' then looksTime rest
      else isDateBlank c && looksTime (rest.dropWhile isDateBlank)
    | _ => false

/-- The signs that begin anchors, aliases and tags. Alone they are no text. -/
def nodeSigns : List String := ["!", "&", "*"]

/-- The kind of a text by its looks. -/
def lookedUp (text : String) : Kind :=
  let cs := text.toList
  if nullWords.contains text then .null
  else if trueWords.contains text || falseWords.contains text then .bool
  else if looksFloat cs then .float
  else if looksInt cs then .int
  else if looksTimestamp cs then .timestamp
  else if text = "<<" then .merge
  else if text = "=" then .default
  else if nodeSigns.contains text then .unknown
  else .text

/-- A text without one line feed behind it. A line feed alone stays. -/
def withoutLineFeed (text : String) : String :=
  match text.toList.reverse with
  | '\n' :: c :: front => String.ofList (c :: front).reverse
  | _ => text

/-- What a scalar without a tag of its own stands for. A line feed at its end does not count. -/
def kindOf (text : String) : Kind := lookedUp (withoutLineFeed text)

end DeviceRelay.Yaml
