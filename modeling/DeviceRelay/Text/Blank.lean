import DeviceRelay.Text.Ranges

/-!
# Blanks

The characters that count as white space at the ends of a text, and the trimming of a text. A name,
an alias or a certificate that holds nothing else counts as empty.
-/

namespace DeviceRelay.Text

/-- The white space of Unicode, with the four separators U+001C to U+001F. -/
def blankRanges : Ranges :=
  [(0x09, 0x0D), (0x1C, 0x20), (0x85, 0x85), (0xA0, 0xA0), (0x1680, 0x1680), (0x2000, 0x200A),
   (0x2028, 0x2029), (0x202F, 0x202F), (0x205F, 0x205F), (0x3000, 0x3000)]

example : blankRanges.ascending = true ∧ blankRanges.count = 29 := by decide

/-- Whether trimming removes the character. -/
def isBlank (c : Char) : Bool := blankRanges.has c.toNat

/-- The blanks of ASCII that a numeral may stand between. -/
def isAsciiBlank (c : Char) : Bool := c == ' ' || ('\t' ≤ c && c ≤ '\r')

/-- Drop what satisfies `p` at both ends. -/
def trimBy (p : Char → Bool) (cs : List Char) : List Char :=
  ((cs.dropWhile p).reverse.dropWhile p).reverse

/-- Drop the blanks at both ends. -/
def trim (cs : List Char) : List Char := trimBy isBlank cs

/-- A text of blanks only, the empty one among them. -/
def isBlankText (s : String) : Bool := s.toList.all isBlank

/-- The table extends the core library's white space. -/
example {c : Char} (h : c.isWhitespace = true) : isBlank c = true := by
  simp [Char.isWhitespace] at h
  rcases h with ((h | h) | h) | h <;> subst h <;> decide

end DeviceRelay.Text
