import DeviceRelay.Json.Token
import DeviceRelay.Json.Writer

/-!
# Tokens in front of a text

What `Token.lex` makes of a text that begins with one piece of a written value:

* a mark, or blanks — `lex_mark`, `lex_blanks`;
* a word, up to a character that ends it — `lex_word`;
* a quoted string, where each escape is undone — `lex_writeString`.
-/

namespace DeviceRelay.Json

namespace Token

/-! ### Blanks and marks -/

theorem lex_space {c : Char} (h : isSpace c = true) (rest : List Char) : lex (c :: rest) = lex rest := by
  rw [lex, dif_pos h]

theorem lex_blanks {blanks : List Char} (h : ∀ c ∈ blanks, isSpace c = true) (rest : List Char) :
    lex (blanks ++ rest) = lex rest := by
  induction blanks with
  | nil => rfl
  | cons c blanks ih =>
    rw [List.cons_append, lex_space (h c List.mem_cons_self),
      ih fun d hd => h d (List.mem_cons_of_mem _ hd)]

theorem isSpace_of_mark {c : Char} {t : Token} (h : mark? c = some t) : isSpace c = false := by
  unfold mark? at h
  split at h <;> first | rfl | cases h

theorem lex_mark {c : Char} {t : Token} (h : mark? c = some t) (rest : List Char) :
    lex (c :: rest) = t :: lex rest := by
  rw [lex, dif_neg (by simp [isSpace_of_mark h])]
  split
  · next u hu =>
    rw [h] at hu
    rw [Option.some.inj hu]
  · next hu =>
    rw [h] at hu
    cases hu

/-! ### Words -/

/-- What follows a word: nothing, or a character that belongs to none. -/
def EndsWord (rest : List Char) : Prop := ∀ c tail, rest = c :: tail → inWord c = false

theorem endsWord_nil : EndsWord [] := by
  intro c tail h
  cases h

theorem endsWord_cons {c : Char} (h : inWord c = false) (tail : List Char) : EndsWord (c :: tail) := by
  intro d _ hd
  rw [← (List.cons.inj hd).1]
  exact h

theorem takeWhile_of_endsWord {rest : List Char} (h : EndsWord rest) :
    rest.takeWhile inWord = [] ∧ rest.dropWhile inWord = rest := by
  cases rest with
  | nil => exact ⟨rfl, rfl⟩
  | cons c tail =>
    have hc : inWord c = false := h c tail rfl
    exact ⟨List.takeWhile_cons_of_neg (by simp [hc]), List.dropWhile_cons_of_neg (by simp [hc])⟩

/-- A word is cut off where it ends, and read as a whole. -/
theorem lex_word {word rest : List Char} (hne : word ≠ []) (hword : ∀ c ∈ word, inWord c = true)
    (hrest : EndsWord rest) : lex (word ++ rest) = ofWord word ++ lex rest := by
  cases word with
  | nil => exact absurd rfl hne
  | cons c tail =>
    have hc := hword c List.mem_cons_self
    simp only [inWord, Bool.and_eq_true, Bool.not_eq_true', Option.isNone_iff_eq_none,
      bne_iff_ne, ne_eq] at hc
    obtain ⟨⟨hspace, hmark⟩, hquote⟩ := hc
    obtain ⟨htake, hdrop⟩ := takeWhile_of_endsWord hrest
    have hwhole : (c :: (tail ++ rest)).takeWhile inWord = c :: tail ∧
        (c :: (tail ++ rest)).dropWhile inWord = rest := by
      rw [← List.cons_append, List.takeWhile_append_of_pos hword, List.dropWhile_append_of_pos hword,
        htake, hdrop, List.append_nil]
      exact ⟨rfl, rfl⟩
    rw [List.cons_append, lex, dif_neg (by simp [hspace])]
    split
    · next t ht =>
      rw [hmark] at ht
      cases ht
    · rw [dif_neg hquote, hwhole.1, hwhole.2]

/-! ### Quoted strings -/

/-- A string is read from what stands between its quotes. -/
theorem lex_quoted {inside rest tail cs : List Char} (hcut : cutString rest = some (inside, tail))
    (hcs : unescape inside = some cs) :
    lex ('"' :: rest) = .str (String.ofList cs) :: lex tail := by
  rw [lex, dif_neg (by decide)]
  split
  · next t ht => simp [mark?] at ht
  · rw [dif_pos rfl]
    split
    · next h =>
      rw [hcut] at h
      cases h
    · next inside' tail' h =>
      rw [hcut] at h
      obtain ⟨rfl, rfl⟩ := Prod.mk.inj (Option.some.inj h)
      rw [hcs]

/-- The piece goes inside the quotes as it is, whatever follows it. -/
def StaysInside (piece : List Char) : Prop :=
  ∀ rest, cutString (piece ++ rest) = (cutString rest).map fun p => (piece ++ p.1, p.2)

theorem staysInside_char {c : Char} (hquote : c ≠ '"') (hback : c ≠ '\\') : StaysInside [c] := by
  intro rest
  rw [List.singleton_append, cutString]
  · rfl
  · exact hquote
  · rintro d tail rfl
    exact absurd rfl hback

theorem staysInside_escape (c : Char) : StaysInside ['\\', c] := fun _ => rfl

theorem StaysInside.append {front back : List Char} (hfront : StaysInside front)
    (hback : StaysInside back) : StaysInside (front ++ back) := by
  intro rest
  rw [List.append_assoc, hfront, hback, Option.map_map]
  congr 1
  funext p
  simp

theorem staysInside_flatMap {α : Type} {f : α → List Char} (h : ∀ a, StaysInside (f a))
    (items : List α) : StaysInside (items.flatMap f) := by
  induction items with
  | nil =>
    intro rest
    simp
  | cons a items ih =>
    rw [List.flatMap_cons]
    exact (h a).append ih

/-- The closing quote ends the inside. -/
theorem cutString_quote {inside : List Char} (h : StaysInside inside) (rest : List Char) :
    cutString (inside ++ '"' :: rest) = some (inside, rest) := by
  rw [h]
  simp [cutString]

theorem unescape_char {c : Char} (hback : c ≠ '\\') (hspace : ¬ c < ' ') (rest : List Char) :
    unescape (c :: rest) = (unescape rest).map (c :: ·) := by
  rw [unescape, if_neg hspace]
  all_goals
    intros
    exact absurd ‹_› hback

theorem unescape_letter {letter c : Char} (h : escaped? letter = some c) (rest : List Char) :
    unescape ('\\' :: letter :: rest) = (unescape rest).map (c :: ·) := by
  rw [unescape, h]
  rintro _ _ _ _ _ rfl -
  simp [escaped?] at h

/-- One unit that is no surrogate. -/
theorem unescape_unit {a b c d : Char} {n : Nat} (hunit : unit? a b c d = some n)
    (h : n < 0xD800 ∨ 0xDFFF < n) (rest : List Char) :
    unescape ('\\' :: 'u' :: a :: b :: c :: d :: rest) = (unescape rest).map (Char.ofNat n :: ·) := by
  rw [unescape, hunit]
  dsimp only
  rw [if_neg (by omega), if_neg (by omega)]

/-- Two units that are a pair of surrogates. -/
theorem unescape_pair {a b c d a' b' c' d' : Char} {high low : Nat} (hhigh : unit? a b c d = some high)
    (hlow : unit? a' b' c' d' = some low) (h : 0xD800 ≤ high ∧ high ≤ 0xDBFF)
    (h' : 0xDC00 ≤ low ∧ low ≤ 0xDFFF) (rest : List Char) :
    unescape ('\\' :: 'u' :: a :: b :: c :: d :: '\\' :: 'u' :: a' :: b' :: c' :: d' :: rest) =
      (unescape rest).map
        (Char.ofNat (0x10000 + (high - 0xD800) * 1024 + (low - 0xDC00)) :: ·) := by
  rw [unescape, hhigh]
  dsimp only
  rw [if_pos h]
  simp only [hlow]
  rw [if_pos h']

end Token

/-! ### Written strings -/

open Token

theorem digit_ne : ∀ n < 16, Hex.digit n ≠ '"' ∧ Hex.digit n ≠ '\\' := by decide

/-- The escape of a unit: six characters, of which the last four are its digits. -/
theorem escapeUnit_eq {n : Nat} (h : n < 0x10000) :
    ∃ a b c d, escapeUnit n = ['\\', 'u', a, b, c, d] ∧ unit? a b c d = some n ∧
      StaysInside (escapeUnit n) := by
  have hunit : escapeUnit n = ['\\', 'u', Hex.digit (n / 16 / 16 / 16 % 16),
      Hex.digit (n / 16 / 16 % 16), Hex.digit (n / 16 % 16), Hex.digit (n % 16)] := rfl
  have hdigit (k : Nat) : Hex.value? (Hex.digit (k % 16)) = some (k % 16) :=
    Hex.value?_digit _ (Nat.mod_lt _ (by decide))
  have hinside (k : Nat) : StaysInside [Hex.digit (k % 16)] :=
    have hk := digit_ne (k % 16) (Nat.mod_lt _ (by decide))
    staysInside_char hk.1 hk.2
  refine ⟨_, _, _, _, hunit, ?_, ?_⟩
  · simp only [unit?, hdigit, Option.bind_eq_bind, Option.bind_some, Option.some.injEq]
    omega
  · rw [hunit]
    exact (staysInside_escape 'u').append ((hinside _).append ((hinside _).append
      ((hinside _).append (hinside _))))

theorem escaped?_of_shortEscape? {c letter : Char} (h : shortEscape? c = some letter) :
    escaped? letter = some c := by
  unfold shortEscape? at h
  split at h <;> cases h <;> rfl

/-- What has no short escape is neither a quote nor a backslash. -/
theorem ne_of_shortEscape? {c : Char} (h : shortEscape? c = none) : c ≠ '"' ∧ c ≠ '\\' := by
  constructor <;> (rintro rfl; cases h)

variable (style : Style)

/-- A written character stays between the quotes, and reading undoes what was written. -/
theorem writeChar_spec (c : Char) :
    StaysInside (writeChar style c) ∧
      ∀ rest, unescape (writeChar style c ++ rest) = (unescape rest).map (c :: ·) := by
  have hvalid : c.toNat < 0xD800 ∨ (0xDFFF < c.toNat ∧ c.toNat < 0x110000) := c.valid
  have hc : Char.ofNat c.toNat = c := Char.ofNat_toNat c
  unfold writeChar
  split
  · next letter h =>
    exact ⟨staysInside_escape letter, unescape_letter (escaped?_of_shortEscape? h)⟩
  · next h =>
    obtain ⟨hquote, hback⟩ := ne_of_shortEscape? h
    dsimp only
    -- The escape of one unit: for controls, and in ASCII for all of the first plane.
    have hunit (hn : c.toNat < 0x10000) : StaysInside (escapeUnit c.toNat) ∧
        ∀ rest, unescape (escapeUnit c.toNat ++ rest) = (unescape rest).map (c :: ·) := by
      obtain ⟨_, _, _, _, heq, hu, hinside⟩ := escapeUnit_eq hn
      refine ⟨hinside, fun rest => ?_⟩
      rw [heq]
      simp only [List.cons_append, List.nil_append]
      rw [unescape_unit hu (by omega), hc]
    split
    · exact hunit (by omega)
    split
    · next hspace _ =>
      refine ⟨staysInside_char hquote hback, unescape_char hback ?_⟩
      intro hlt
      exact hspace hlt
    split
    · next hn => exact hunit hn
    · next hn =>
      obtain ⟨_, _, _, _, hhigh, hu, hinside⟩ :=
        escapeUnit_eq (n := 0xD800 + (c.toNat - 0x10000) / 1024) (by omega)
      obtain ⟨_, _, _, _, hlow, hu', hinside'⟩ :=
        escapeUnit_eq (n := 0xDC00 + (c.toNat - 0x10000) % 1024) (by omega)
      refine ⟨hinside.append hinside', fun rest => ?_⟩
      rw [hhigh, hlow]
      simp only [List.cons_append, List.nil_append]
      rw [unescape_pair hu hu' (by omega) (by omega)]
      have hn : 0x10000 + (0xD800 + (c.toNat - 0x10000) / 1024 - 0xD800) * 1024 +
          (0xDC00 + (c.toNat - 0x10000) % 1024 - 0xDC00) = c.toNat := by omega
      rw [hn, hc]

theorem unescape_flatMap (cs : List Char) : unescape (cs.flatMap (writeChar style)) = some cs := by
  induction cs with
  | nil => rfl
  | cons c cs ih => rw [List.flatMap_cons, (writeChar_spec style c).2, ih, Option.map_some]

/-- A written string is one token. -/
theorem lex_writeString (s : String) (rest : List Char) :
    lex (writeString style s ++ rest) = .str s :: lex rest := by
  have hinside : StaysInside (s.toList.flatMap (writeChar style)) :=
    staysInside_flatMap (fun c => (writeChar_spec style c).1) _
  have hwhole : writeString style s ++ rest =
      '"' :: (s.toList.flatMap (writeChar style) ++ '"' :: rest) := by
    simp [writeString]
  rw [hwhole, lex_quoted (cutString_quote hinside rest) (unescape_flatMap style _), String.ofList_toList]

end DeviceRelay.Json
