import DeviceRelay.Bytes
import DeviceRelay.Binary64.Text

/-!
# The tokens of a JSON text

Between blanks, a JSON text is a row of brackets, marks, quoted strings and words. A word is a
maximal run of other characters; it is read as the longest number that it starts with, or as one of
the names, and what is left of it is refused. What no token can be read from ends the row with `bad`,
so that a reader meets a refusal where it stands in the text.
-/

namespace DeviceRelay.Json

/-- A token. A number comes with how many digits it has in front of its point. -/
inductive Token where
  | openArray
  | closeArray
  | openObject
  | closeObject
  | comma
  | colon
  | null
  | bool (value : Bool)
  | int (value : Int) (digits : Nat)
  | float (value : Binary64) (digits : Nat)
  | str (value : String)
  | bad
  deriving Repr, DecidableEq

namespace Token

/-- The blanks between tokens. -/
def isSpace (c : Char) : Bool := c == ' ' || c == '\t' || c == '\n' || c == '\r'

/-- The tokens of one character. -/
def mark? : Char → Option Token
  | '[' => some .openArray
  | ']' => some .closeArray
  | '\x7b' => some .openObject
  | '\x7d' => some .closeObject
  | ',' => some .comma
  | ':' => some .colon
  | _ => none

/-- Whether the character belongs to a word. -/
def inWord (c : Char) : Bool := !isSpace c && (mark? c).isNone && c != '"'

/-! ### Strings -/

/-- The number that four hexadecimal digits spell. -/
def unit? (a b c d : Char) : Option Nat := do
  let a ← Hex.value? a
  let b ← Hex.value? b
  let c ← Hex.value? c
  let d ← Hex.value? d
  some (((a * 16 + b) * 16 + c) * 16 + d)

/-- The character that one letter behind a backslash stands for. -/
def escaped? : Char → Option Char
  | '"' => some '"'
  | '\\' => some '\\'
  | '/' => some '/'
  | 'b' => some '\x08'
  | 'f' => some '\x0c'
  | 'n' => some '\n'
  | 'r' => some '\r'
  | 't' => some '\t'
  | _ => none

/-- The characters that the inside of a quoted string stands for. A character beyond the first plane
is escaped as two units; one unit of such a pair alone stands for nothing. -/
def unescape : List Char → Option (List Char)
  | [] => some []
  | '\\' :: 'u' :: a :: b :: c :: d :: rest =>
    match unit? a b c d with
    | none => none
    | some high =>
      if 0xD800 ≤ high ∧ high ≤ 0xDBFF then
        match rest with
        | '\\' :: 'u' :: e :: f :: g :: h :: rest =>
          match unit? e f g h with
          | none => none
          | some low =>
            if 0xDC00 ≤ low ∧ low ≤ 0xDFFF then
              (unescape rest).map
                (Char.ofNat (0x10000 + (high - 0xD800) * 1024 + (low - 0xDC00)) :: ·)
            else none
        | _ => none
      else if 0xDC00 ≤ high ∧ high ≤ 0xDFFF then none
      else (unescape rest).map (Char.ofNat high :: ·)
  | '\\' :: c :: rest =>
    match escaped? c with
    | none => none
    | some d => (unescape rest).map (d :: ·)
  | ['\\'] => none
  | c :: rest => if c < ' ' then none else (unescape rest).map (c :: ·)

/-- The inside of a quoted string behind its opening quote, and what follows the closing one. -/
def cutString : List Char → Option (List Char × List Char)
  | [] => none
  | '"' :: rest => some ([], rest)
  | '\\' :: c :: rest => (cutString rest).map fun p => ('\\' :: c :: p.1, p.2)
  | c :: rest => (cutString rest).map fun p => (c :: p.1, p.2)

theorem length_cutString {cs inside rest : List Char} (h : cutString cs = some (inside, rest)) :
    rest.length < cs.length := by
  fun_induction cutString cs generalizing inside rest with
  | case1 => simp at h
  | case2 tail =>
    injection h with h
    simp [← (Prod.mk.inj h).2]
  | case3 c tail ih =>
    obtain ⟨p, hp, hq⟩ := Option.map_eq_some_iff.1 h
    have := ih hp
    simp only [Prod.mk.injEq] at hq
    simp only [List.length_cons, ← hq.2]
    omega
  | case4 c tail _ _ ih =>
    obtain ⟨p, hp, hq⟩ := Option.map_eq_some_iff.1 h
    have := ih hp
    simp only [Prod.mk.injEq] at hq
    simp only [List.length_cons, ← hq.2]
    omega

/-! ### Words -/

/-- Digits behind a point, if there are any. -/
def cutFraction (cs : List Char) : List Char × List Char :=
  match cs with
  | '.' :: rest =>
    let digits := rest.takeWhile Char.isDigit
    if digits.isEmpty then ([], cs) else (digits, rest.dropWhile Char.isDigit)
  | _ => ([], cs)

/-- A power of ten behind a sign `e`, if there is one. -/
def cutExponent (cs : List Char) : Option Int × List Char :=
  match cs with
  | c :: rest =>
    let (negative, body) := Binary64.takeSign rest
    let digits := body.takeWhile Char.isDigit
    if (c == 'e' || c == 'E') && !digits.isEmpty then
      let size : Int := Binary64.digitsValue digits
      (some (if negative then -size else size), body.dropWhile Char.isDigit)
    else (none, cs)
  | [] => (none, [])

/-- The whole part of a number: a zero alone, or digits that do not begin with one. -/
def cutWhole (cs : List Char) : List Char × List Char :=
  match cs with
  | '0' :: rest => (['0'], rest)
  | _ => (cs.takeWhile Char.isDigit, cs.dropWhile Char.isDigit)

/-- The longest number that a word starts with, and what is left of the word. -/
def number? (cs : List Char) : Option (Token × List Char) :=
  let (negative, body) := match cs with
    | '-' :: rest => (true, rest)
    | _ => (false, cs)
  let (whole, rest) := cutWhole body
  let (fraction, rest) := cutFraction rest
  let (exponent, rest) := cutExponent rest
  if whole.isEmpty then none
  else if fraction.isEmpty && exponent.isNone then
    let size : Int := Binary64.digitsValue whole
    some (.int (if negative then -size else size) whole.length, rest)
  else
    some (.float (Binary64.ofDecimal negative (Binary64.digitsValue (whole ++ fraction))
      (exponent.getD 0 - fraction.length)) whole.length, rest)

/-- The words that are names. -/
def named? (word : List Char) : Option Token :=
  match String.ofList word with
  | "null" => some .null
  | "true" => some (.bool true)
  | "false" => some (.bool false)
  | "NaN" => some (.float .nan 0)
  | "Infinity" => some (.float (.infinite false) 0)
  | "-Infinity" => some (.float (.infinite true) 0)
  | _ => none

/-- The tokens of a word: one, or a refusal behind the number that it starts with. -/
def ofWord (word : List Char) : List Token :=
  match named? word, number? word with
  | some t, _ => [t]
  | none, some (t, []) => [t]
  | none, some (t, _ :: _) => [t, .bad]
  | none, none => [.bad]

/-! ### The whole text -/

theorem length_dropWhile_lt {p : Char → Bool} {c : Char} {rest : List Char} (h : p c = true) :
    ((c :: rest).dropWhile p).length < (c :: rest).length := by
  rw [List.dropWhile_cons_of_pos h]
  exact Nat.lt_succ_of_le (List.dropWhile_sublist p).length_le

/-- The tokens of a text. -/
def lex : List Char → List Token
  | [] => []
  | c :: rest =>
    if _hc : isSpace c then lex rest
    else match _hm : mark? c with
      | some t => t :: lex rest
      | none =>
        if _hq : c = '"' then
          match _hs : cutString rest with
          | none => [.bad]
          | some (inside, tail) =>
            match unescape inside with
            | none => [.bad]
            | some cs => .str (String.ofList cs) :: lex tail
        else
          ofWord ((c :: rest).takeWhile inWord) ++ lex ((c :: rest).dropWhile inWord)
termination_by cs => cs.length
decreasing_by
  · simp
  · simp
  · have := length_cutString _hs
    simp only [List.length_cons]
    omega
  · exact length_dropWhile_lt (by simp [inWord, _hc, _hm, _hq])

end Token

end DeviceRelay.Json
