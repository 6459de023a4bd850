import DeviceRelay.Proofs.Json.Lexing

/-!
# The tokens of a value

    Json ──writeChars style──▶ text ──Token.lex──▶ tokens

`tokens` lists the tokens of a value without a text in between. Main statement: `lex_writeChars`, a text
written for a value has exactly these, in every lawful style and whatever stands behind it, as long as
that does not prolong a word. The leaves are strings (`lex_writeString`) and words: names and numbers.
-/

namespace DeviceRelay.Json

open Token

/-! ### Integers -/

theorem digitsValue_eq_ofDigitChars (cs : List Char) :
    Binary64.digitsValue cs = Nat.ofDigitChars 10 cs 0 := by
  rw [Binary64.digitsValue, Nat.ofDigitChars_eq_foldl]
  congr 1
  funext m c
  rw [Nat.mul_comm]

theorem digitsValue_toDigits (n : Nat) : Binary64.digitsValue (Nat.toDigits 10 n) = n := by
  rw [digitsValue_eq_ofDigitChars, Nat.ofDigitChars_ten_toDigits]

theorem digitsValue_zeros (k : Nat) (cs : List Char) :
    Binary64.digitsValue (List.replicate k '0' ++ cs) = Binary64.digitsValue cs := by
  induction k with
  | zero => rfl
  | succ k ih => exact ih

theorem digitsValue_append_zeros (cs : List Char) (k : Nat) :
    Binary64.digitsValue (cs ++ List.replicate k '0') = Binary64.digitsValue cs * Nat.pow 10 k := by
  induction k with
  | zero =>
    rw [List.replicate_zero, List.append_nil]
    exact (Nat.mul_one _).symm
  | succ k ih =>
    -- the last zero makes ten times of what is in front of it
    have hpow : Nat.pow 10 (k + 1) = Nat.pow 10 k * 10 := rfl
    rw [List.replicate_succ', ← List.append_assoc, Binary64.digitsValue, List.foldl_append, hpow, ← Nat.mul_assoc,
      ← ih]
    rfl

theorem isDigit_of_mem_toDigits {n : Nat} {c : Char} (h : c ∈ Nat.toDigits 10 n) : c.isDigit = true :=
  Nat.isDigit_of_mem_toDigits (by decide) (by decide) h

theorem digitChar_ne_zero : ∀ n < 10, n ≠ 0 → n.digitChar ≠ '0' := by decide

/-- No zero leads the digits of another number. -/
theorem head?_toDigits_ne {n : Nat} (h : n ≠ 0) : (Nat.toDigits 10 n).head? ≠ some '0' := by
  induction n using Nat.strongRecOn with
  | _ n ih =>
    rw [Nat.toDigits_eq_if (by decide)]
    split
    · next hn =>
      intro hz
      exact digitChar_ne_zero n hn h (Option.some.inj hz)
    · next hn =>
      have hrest := ih (n / 10) (by omega) (by omega)
      rw [List.head?_append]
      cases hd : (Nat.toDigits 10 (n / 10)).head? with
      | none => exact absurd (List.head?_eq_none_iff.mp hd) Nat.toDigits_ne_nil
      | some c =>
        rw [hd] at hrest
        exact hrest

/-- A number whose digits begin with a zero has no others. -/
theorem toDigits_of_head? {n : Nat} (h : (Nat.toDigits 10 n).head? = some '0') : Nat.toDigits 10 n = ['0'] := by
  by_cases hn : n = 0
  · rw [hn, Nat.toDigits_zero]
  · exact absurd h (head?_toDigits_ne hn)

/-- Digits go up to what is none. -/
theorem digits_append {front rest : List Char} (hfront : ∀ c ∈ front, c.isDigit = true)
    (hrest : ∀ c ∈ rest.head?, c.isDigit = false) :
    (front ++ rest).takeWhile Char.isDigit = front ∧ (front ++ rest).dropWhile Char.isDigit = rest := by
  have hstop : rest.takeWhile Char.isDigit = [] ∧ rest.dropWhile Char.isDigit = rest := by
    cases rest with
    | nil => exact ⟨rfl, rfl⟩
    | cons c rest =>
      have hc := hrest c rfl
      exact ⟨List.takeWhile_cons_of_neg (by simp [hc]), List.dropWhile_cons_of_neg (by simp [hc])⟩
  rw [List.takeWhile_append_of_pos hfront, List.dropWhile_append_of_pos hfront, hstop.1, hstop.2, List.append_nil]
  exact ⟨rfl, rfl⟩

/-- A whole part ends where its digits do; one that begins with a zero ends there. -/
theorem cutWhole_append {whole rest : List Char} (hdigits : ∀ c ∈ whole, c.isDigit = true) (hne : whole ≠ [])
    (hzero : whole.head? = some '0' → whole = ['0']) (hrest : ∀ c ∈ rest.head?, c.isDigit = false) :
    cutWhole (whole ++ rest) = (whole, rest) := by
  obtain ⟨htake, hdrop⟩ := digits_append hdigits hrest
  unfold cutWhole
  split
  · next tail htail =>
    have hhead : whole.head? = some '0' := by
      cases whole with
      | nil => exact absurd rfl hne
      | cons c more => rw [(List.cons.inj htail).1, List.head?_cons]
    rw [hzero hhead] at htail ⊢
    exact congrArg (Prod.mk ['0']) (List.cons.inj htail).2.symm
  · rw [htake, hdrop]

/-- The digits of a number are a whole part by themselves. -/
theorem cutWhole_toDigits (n : Nat) : cutWhole (Nat.toDigits 10 n) = (Nat.toDigits 10 n, []) := by
  have hdigits : ∀ c ∈ Nat.toDigits 10 n, c.isDigit = true := fun _ hc => isDigit_of_mem_toDigits hc
  have hcut := cutWhole_append hdigits Nat.toDigits_ne_nil toDigits_of_head? fun _ (hc : _ ∈ [].head?) => nomatch hc
  rwa [List.append_nil] at hcut

/-- How many digits an integer is written with. -/
def digitCount (n : Int) : Nat := (Nat.toDigits 10 n.natAbs).length

/-- An integer is a number by itself, with as many digits as are written. -/
theorem number?_writeInt (n : Int) : number? (writeInt n) = some (.int n (digitCount n), []) := by
  have hne : (Nat.toDigits 10 n.natAbs).isEmpty = false := by
    rw [List.isEmpty_eq_false_iff]
    exact Nat.toDigits_ne_nil
  unfold writeInt number? digitCount
  by_cases h : n < 0
  · have hn : -(n.natAbs : Int) = n := by omega
    simp only [if_pos h, List.cons_append, List.nil_append, cutWhole_toDigits, cutFraction,
      cutExponent, hne, digitsValue_toDigits, List.isEmpty_nil, Option.isNone_none, Bool.and_self,
      Bool.false_eq_true, if_false, if_true, hn]
  · have hn : (n.natAbs : Int) = n := by omega
    simp only [if_neg h, List.nil_append]
    split
    · next body hbody =>
      have hdash : '-' ∈ Nat.toDigits 10 n.natAbs := by rw [hbody]; exact List.mem_cons_self
      exact absurd (isDigit_of_mem_toDigits hdash) (by decide)
    · simp only [cutWhole_toDigits, cutFraction, cutExponent, hne, digitsValue_toDigits,
        List.isEmpty_nil, Option.isNone_none, Bool.and_self, Bool.false_eq_true, if_false, if_true,
        hn]

/-- The characters of numbers in text. -/
def inNumeral (c : Char) : Bool := c.isDigit || ['.', 'e', '+', '-'].contains c

theorem inWord_of_inNumeral {c : Char} (h : inNumeral c = true) : inWord c = true := by
  rcases Bool.or_eq_true_iff.mp h with h | h
  · have hascii : ∀ n < 58, 48 ≤ n → inWord (Char.ofNat n) = true := by decide
    obtain ⟨hlow, hhigh⟩ := Char.isDigit_iff_toNat.mp h
    have hc := hascii c.toNat (Nat.lt_succ_of_le hhigh) hlow
    rwa [Char.ofNat_toNat] at hc
  · have hmarks : ∀ m ∈ ['.', 'e', '+', '-'], inWord m = true := List.all_eq_true.mp (by decide)
    exact hmarks c (List.contains_iff_mem.mp h)

theorem inNumeral_of_digits {n : Nat} {c : Char} (h : c ∈ Nat.toDigits 10 n) : inNumeral c = true := by
  rw [inNumeral, isDigit_of_mem_toDigits h, Bool.true_or]

/-- The sign of a number in text. -/
theorem inNumeral_of_sign {p : Prop} [Decidable p] {c : Char} (h : c ∈ if p then ['-'] else []) :
    inNumeral c = true := by
  split at h
  · rw [List.mem_singleton.mp h]
    rfl
  · cases h

theorem inNumeral_writeInt (n : Int) : ∀ c ∈ writeInt n, inNumeral c = true := by
  intro c hc
  unfold writeInt at hc
  rcases List.mem_append.mp hc with h | h
  · exact inNumeral_of_sign h
  · exact inNumeral_of_digits h

/-- No name is spelled with the characters of numbers. -/
theorem named?_eq_none {word : List Char} (h : ∀ c ∈ word, inNumeral c = true) :
    named? word = none := by
  have hletter (name : String) (hname : name.toList.any (fun c => !inNumeral c) = true) :
      String.ofList word ≠ name := by
    rintro rfl
    obtain ⟨c, hc, hn⟩ := List.any_eq_true.mp hname
    rw [String.toList_ofList] at hc
    simp [h c hc] at hn
  unfold named?
  split
  case h_7 => rfl
  -- each name has a letter that no number has
  all_goals
    next hname => exact absurd hname (hletter _ (by decide))

theorem ofWord_writeInt (n : Int) : ofWord (writeInt n) = [.int n (digitCount n)] := by
  rw [ofWord, named?_eq_none (inNumeral_writeInt n), number?_writeInt]

/-! ### Other numbers -/

section Decimal

variable {c : Char}

theorem inNumeral_of_zeros {n : Nat} (h : c ∈ List.replicate n '0') : inNumeral c = true := by
  rw [(List.mem_replicate.mp h).2]
  rfl

theorem inNumeral_plainDigits {digits : List Char} {point : Int}
    (hdigits : ∀ c ∈ digits, inNumeral c = true) (h : c ∈ Binary64.plainDigits digits point) :
    inNumeral c = true := by
  unfold Binary64.plainDigits at h
  split at h
  · simp only [List.mem_cons, List.mem_append] at h
    rcases h with rfl | rfl | h | h
    · rfl
    · rfl
    · exact inNumeral_of_zeros h
    · exact hdigits c h
  split at h
  · simp only [List.mem_cons, List.mem_append, List.not_mem_nil, or_false] at h
    rcases h with (h | h) | rfl | rfl
    · exact hdigits c h
    · exact inNumeral_of_zeros h
    · rfl
    · rfl
  · simp only [List.mem_cons, List.mem_append] at h
    rcases h with h | rfl | h
    · exact hdigits c (List.mem_of_mem_take h)
    · rfl
    · exact hdigits c (List.mem_of_mem_drop h)

theorem inNumeral_scientificDigits {width : Nat} {digits : List Char} {exponent : Int}
    (hdigits : ∀ c ∈ digits, inNumeral c = true)
    (h : c ∈ Binary64.scientificDigits width digits exponent) : inNumeral c = true := by
  unfold Binary64.scientificDigits at h
  simp only [List.mem_cons, List.mem_append] at h
  rcases h with h | rfl | rfl | h | h
  · split at h
    · rw [List.mem_singleton.mp h]
      rfl
    · exact hdigits c h
    · next d rest _ =>
      rcases List.mem_cons.mp h with rfl | h
      · exact hdigits c List.mem_cons_self
      rcases List.mem_cons.mp h with rfl | h
      · rfl
      · exact hdigits c (List.mem_cons_of_mem _ h)
  · rfl
  · split <;> rfl
  · exact inNumeral_of_zeros h
  · exact inNumeral_of_digits h

theorem inNumeral_decimal {layout : Binary64.Layout} {d : Binary64.Decimal} (h : c ∈ layout.decimal d) :
    inNumeral c = true := by
  unfold Binary64.Layout.decimal at h
  extract_lets digits point at h
  split at h
  · exact inNumeral_plainDigits (fun _ hc => inNumeral_of_digits hc) h
  · exact inNumeral_scientificDigits (fun _ hc => inNumeral_of_digits hc) h

end Decimal

theorem decimal_ne_nil (layout : Binary64.Layout) (d : Binary64.Decimal) : layout.decimal d ≠ [] := by
  unfold Binary64.Layout.decimal
  extract_lets digits point
  split
  · unfold Binary64.plainDigits
    split
    · exact List.cons_ne_nil _ _
    split <;> simp
  · unfold Binary64.scientificDigits
    simp

theorem text_ne_nil (x : Binary64) : (Binary64.text numberLayout x).toList ≠ [] := by
  have hnan : "NaN".toList ≠ [] := by decide
  unfold Binary64.text
  split
  · exact hnan
  · next negative => cases negative <;> decide
  · split
    · rw [String.toList_ofList]
      exact fun h => decimal_ne_nil _ _ (List.append_eq_nil_iff.mp h).2
    · exact hnan

/-- A floating-point number is written with the characters of numbers, or with those of a name. -/
theorem mem_text {x : Binary64} {c : Char} (h : c ∈ (Binary64.text numberLayout x).toList) :
    inNumeral c = true ∨ c ∈ "NaN".toList ∨ c ∈ "Infinity".toList := by
  unfold Binary64.text at h
  split at h
  · exact .inr (.inl h)
  · rw [String.toList_append] at h
    rcases List.mem_append.mp h with h | h
    · refine .inl ?_
      split at h
      · rw [List.mem_singleton.mp h]
        rfl
      · cases h
    · exact .inr (.inr h)
  · split at h
    · rw [String.toList_ofList] at h
      rcases List.mem_append.mp h with h | h
      · exact .inl (inNumeral_of_sign h)
      · exact .inl (inNumeral_decimal h)
    · exact .inr (.inl h)

/-- A floating-point number is written as a word. -/
theorem inWord_text {x : Binary64} : ∀ c ∈ (Binary64.text numberLayout x).toList, inWord c = true := by
  have hnan : ∀ c ∈ "NaN".toList, inWord c = true := List.all_eq_true.mp (by decide)
  have hinfinity : ∀ c ∈ "Infinity".toList, inWord c = true := List.all_eq_true.mp (by decide)
  intro c hc
  rcases mem_text hc with h | h | h
  · exact inWord_of_inNumeral h
  · exact hnan c h
  · exact hinfinity c h

/-! ### Values -/

mutual

/-- The tokens of a value. -/
def tokens : Json → List Token
  | .null => [.null]
  | .bool b => [.bool b]
  | .int n => [.int n (digitCount n)]
  | .float x => ofWord (Binary64.text numberLayout x).toList
  | .str s => [.str s]
  | .arr items => .openArray :: (itemTokens items ++ [.closeArray])
  | .obj members => .openObject :: (memberTokens members ++ [.closeObject])

/-- The tokens of items with commas between them. -/
def itemTokens : List Json → List Token
  | [] => []
  | [item] => tokens item
  | item :: rest => tokens item ++ .comma :: itemTokens rest

/-- The tokens of members with commas between them. -/
def memberTokens : List (String × Json) → List Token
  | [] => []
  | [(name, value)] => .str name :: .colon :: tokens value
  | (name, value) :: rest => .str name :: .colon :: (tokens value ++ .comma :: memberTokens rest)

end

/-- A style whose commas and colons have nothing but blanks behind them. -/
structure Style.Lawful (style : Style) : Prop where
  comma_eq : ∃ blanks, style.comma = ',' :: blanks ∧ ∀ c ∈ blanks, isSpace c = true
  colon_eq : ∃ blanks, style.colon = ':' :: blanks ∧ ∀ c ∈ blanks, isSpace c = true

theorem compact_lawful : compact.Lawful :=
  ⟨⟨[], rfl, List.forall_mem_nil _⟩, ⟨[], rfl, List.forall_mem_nil _⟩⟩

theorem published_lawful : published.Lawful :=
  ⟨⟨[' '], rfl, List.all_eq_true.mp (by decide)⟩, ⟨[' '], rfl, List.all_eq_true.mp (by decide)⟩⟩

section Lawful

variable {style : Style} (h : style.Lawful)

include h

theorem lex_comma (rest : List Char) : lex (style.comma ++ rest) = .comma :: lex rest := by
  obtain ⟨blanks, hcomma, hblanks⟩ := h.comma_eq
  rw [hcomma, List.cons_append, lex_mark rfl, lex_blanks hblanks]

theorem lex_colon (rest : List Char) : lex (style.colon ++ rest) = .colon :: lex rest := by
  obtain ⟨blanks, hcolon, hblanks⟩ := h.colon_eq
  rw [hcolon, List.cons_append, lex_mark rfl, lex_blanks hblanks]

theorem endsWord_comma (rest : List Char) : EndsWord (style.comma ++ rest) := by
  obtain ⟨blanks, hcomma, -⟩ := h.comma_eq
  rw [hcomma, List.cons_append]
  exact endsWord_cons (by decide) _

end Lawful

mutual

/-- A written value is read as its tokens. -/
theorem lex_writeChars {style : Style} (h : style.Lawful) :
    ∀ (v : Json) (rest : List Char), EndsWord rest →
      lex (writeChars style v ++ rest) = tokens v ++ lex rest
  | .null, rest, hrest => by
    rw [writeChars, lex_word (by decide) (List.all_eq_true.mp (by decide)) hrest, tokens]
    rfl
  | .bool true, rest, hrest => by
    rw [writeChars, lex_word (by decide) (List.all_eq_true.mp (by decide)) hrest, tokens]
    rfl
  | .bool false, rest, hrest => by
    rw [writeChars, lex_word (by decide) (List.all_eq_true.mp (by decide)) hrest, tokens]
    rfl
  | .int n, rest, hrest => by
    have hne : writeInt n ≠ [] := fun hn =>
      Nat.toDigits_ne_nil (List.append_eq_nil_iff.mp hn).2
    have hword : ∀ c ∈ writeInt n, inWord c = true := fun c hc =>
      inWord_of_inNumeral (inNumeral_writeInt n c hc)
    rw [writeChars, lex_word hne hword hrest, ofWord_writeInt, tokens]
  | .float x, rest, hrest => by
    rw [writeChars, lex_word (text_ne_nil x) inWord_text hrest, tokens]
  | .str s, rest, _ => by
    rw [writeChars, lex_writeString, tokens]
    rfl
  | .arr items, rest, _ => by
    have hitems := lex_writeItems h items (']' :: rest) (endsWord_cons (by decide) _)
    rw [writeChars, tokens, List.cons_append, lex_mark rfl, List.append_assoc, List.singleton_append,
      hitems, lex_mark rfl]
    simp
  | .obj members, rest, _ => by
    have hmembers := lex_writeMembers h members ('\x7d' :: rest) (endsWord_cons (by decide) _)
    rw [writeChars, tokens, List.cons_append, lex_mark rfl, List.append_assoc, List.singleton_append,
      hmembers, lex_mark rfl]
    simp

theorem lex_writeItems {style : Style} (h : style.Lawful) :
    ∀ (items : List Json) (rest : List Char), EndsWord rest →
      lex (writeItems style items ++ rest) = itemTokens items ++ lex rest
  | [], rest, _ => rfl
  | [item], rest, hrest => by
    rw [writeItems, itemTokens, lex_writeChars h item rest hrest]
  | item :: next :: more, rest, hrest => by
    rw [writeItems, itemTokens, List.append_assoc, List.append_assoc,
      lex_writeChars h item _ (endsWord_comma h _), lex_comma h,
      lex_writeItems h (next :: more) rest hrest]
    · simp
    all_goals exact List.cons_ne_nil _ _

theorem lex_writeMembers {style : Style} (h : style.Lawful) :
    ∀ (members : List (String × Json)) (rest : List Char), EndsWord rest →
      lex (writeMembers style members ++ rest) = memberTokens members ++ lex rest
  | [], rest, _ => rfl
  | [(name, value)], rest, hrest => by
    rw [writeMembers, memberTokens, List.append_assoc, List.append_assoc, lex_writeString,
      lex_colon h, lex_writeChars h value rest hrest]
    rfl
  | (name, value) :: next :: more, rest, hrest => by
    rw [writeMembers, memberTokens]
    simp only [List.append_assoc]
    rw [lex_writeString, lex_colon h, lex_writeChars h value _ (endsWord_comma h _), lex_comma h,
      lex_writeMembers h (next :: more) rest hrest]
    · simp
    all_goals exact List.cons_ne_nil _ _

end

end DeviceRelay.Json
