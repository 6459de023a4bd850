/-!
# Texts with surrogates

A text is a row of characters. A document may also write, and a runtime may hold, code points that are no characters:
surrogates are meant to come in pairs, and one may stand by itself. A text that is torn in such a place has no octets
in UTF-8, so that whoever asks for them is refused.

    LooseText   =   text of characters   |   characters ++ surrogate :: code points
-/

namespace DeviceRelay

/-- A code point. Surrogates are counted from the first one on. -/
inductive CodePoint where
  | char (c : Char)
  | surrogate (index : Fin 0x800)
  deriving Repr, DecidableEq

namespace CodePoint

/-- The number of the first surrogate. -/
def firstSurrogate : Nat := 0xD800

/-- The code point of a number, if there is one. -/
def ofNat? (n : Nat) : Option CodePoint :=
  if h : n.isValidChar then some (.char (Char.ofNatAux n h))
  else if h : firstSurrogate ≤ n ∧ n - firstSurrogate < 0x800 then some (.surrogate ⟨n - firstSurrogate, h.2⟩)
  else none

/-- Whether the code point is a surrogate. -/
def isSurrogate : CodePoint → Bool
  | .char _ => false
  | .surrogate _ => true

/-- The character, or the one that stands in for what is none. -/
def repaired : CodePoint → Char
  | .char c => c
  | .surrogate _ => '\ufffd'

end CodePoint

/-- A text with a surrogate: the characters before the first one, and all that follows it. -/
structure TornText where
  before : String
  first : Fin 0x800
  after : List CodePoint
  deriving Repr, DecidableEq

namespace TornText

/-- The text with a replacement character for each surrogate. -/
def repaired (t : TornText) : String :=
  String.ofList (t.before.toList ++ '\ufffd' :: t.after.map CodePoint.repaired)

/-- Where the first surrogate stands. -/
def position (t : TornText) : Nat := t.before.length

/-- How many surrogates stand right behind the first one. -/
def more (t : TornText) : Nat := (t.after.takeWhile CodePoint.isSurrogate).length

end TornText

/-- A text as a runtime may hold it. -/
inductive LooseText where
  | text (s : String)
  | torn (t : TornText)
  deriving Repr, DecidableEq

namespace LooseText

instance : Coe String LooseText := ⟨.text⟩

instance : Inhabited LooseText := ⟨.text ""⟩

/-- The leading characters, and the first surrogate with what follows it. -/
def split : List CodePoint → List Char × Option (Fin 0x800 × List CodePoint)
  | [] => ([], none)
  | .surrogate first :: after => ([], some (first, after))
  | .char c :: rest => (c :: (split rest).1, (split rest).2)

/-- The text of a row of code points. -/
def ofPoints (points : List CodePoint) : LooseText :=
  match split points with
  | (cs, none) => .text (String.ofList cs)
  | (cs, some (first, after)) => .torn ⟨String.ofList cs, first, after⟩

/-- The text with a replacement character for each surrogate. -/
def repaired : LooseText → String
  | .text s => s
  | .torn t => t.repaired

end LooseText

end DeviceRelay
