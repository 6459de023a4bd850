import DeviceRelay.Binary64

/-!
# JSON values

A JSON text denotes one of these values. The members of an object stay as they are written, in their
order and with names that occur twice; `Json.last?` is the rule that the last one counts.

    text ──Token.lex──▶ tokens ──Json.ofTokens──▶ Json ──Json.write style──▶ text
-/

namespace DeviceRelay

/-- A JSON value. Whole numbers and others are apart, because fields tell them apart. -/
inductive Json where
  | null
  | bool (value : Bool)
  | int (value : Int)
  | float (value : Binary64)
  | str (value : String)
  | arr (items : List Json)
  | obj (members : List (String × Json))
  deriving Repr, Inhabited

namespace Json

/-- The value that belongs to a name: of several members of the name, that of the last. -/
def last? {α : Type} (name : String) : List (String × α) → Option α
  | [] => none
  | (key, value) :: rest =>
    match last? name rest with
    | some found => some found
    | none => if key = name then some value else none

/-- A text, or null. -/
def ofText? (s : Option String) : Json := (s.map Json.str).getD .null

/-- An integer, or null. -/
def ofInt? (n : Option Int) : Json := (n.map Json.int).getD .null

/-- A truth value, or null. -/
def ofBool? (b : Option Bool) : Json := (b.map Json.bool).getD .null

end Json

end DeviceRelay
