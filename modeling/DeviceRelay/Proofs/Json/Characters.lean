import DeviceRelay.Proofs.Json.Leaves
import Mathlib.Logic.Basic

/-!
# The characters of a written value

A written value has marks, words and strings. Marks, words and escapes are ASCII; of a character of a string, a style
decides whether it is written as it is or escaped:

    c ──writeChar style──▶ [c], or an escape if c is in ASCII or the style is

So what holds of all ASCII holds of the whole text, if it holds of the characters that stand in the strings and names
of the value as they are.

* `Json.forall_writeChar_iff` — one character of a string.
* `Json.forall_writeChars_iff` — the text of a value.
* `Json.ascii_writeChars` — which is in ASCII, if the style is.
-/

namespace DeviceRelay.Json

/-- The texts in the value have such characters only. -/
def Says (p : Char → Prop) : Json → Prop
  | .str s => ∀ c ∈ s.toList, p c
  | _ => True

/-! ### Escapes and words -/

theorem ascii_of_all {cs : List Char} (h : cs.all (·.toNat < 128) = true) : ∀ c ∈ cs, c.toNat < 128 :=
  fun c hc => of_decide_eq_true (List.all_eq_true.mp h c hc)

theorem ascii_hexDigits {width n : Nat} : ∀ c ∈ Text.hexDigits width n, c.toNat < 128 := by
  induction width generalizing n with
  | zero => exact List.forall_mem_nil _
  | succ width ih =>
    rw [Text.hexDigits, List.forall_mem_append, List.forall_mem_singleton]
    exact ⟨ih, Hex.digit_ascii _ (by omega)⟩

theorem ascii_escapeUnit {n : Nat} : ∀ c ∈ escapeUnit n, c.toNat < 128 :=
  List.forall_mem_cons.mpr ⟨by decide, List.forall_mem_cons.mpr ⟨by decide, ascii_hexDigits⟩⟩

/-- A character with a short escape is in ASCII, and so is the letter. -/
theorem ascii_of_shortEscape? {c letter : Char} (h : shortEscape? c = some letter) :
    c.toNat < 128 ∧ letter.toNat < 128 := by
  unfold shortEscape? at h
  split at h
  case h_8 => cases h
  all_goals
    obtain rfl := Option.some.inj h
    decide

theorem ascii_of_inNumeral {c : Char} (h : inNumeral c = true) : c.toNat < 128 := by
  rcases Bool.or_eq_true_iff.mp h with h | h
  · obtain ⟨-, hhigh⟩ := Char.isDigit_iff_toNat.mp h
    exact Nat.lt_of_le_of_lt hhigh (by decide)
  · exact ascii_of_all (by decide) c (List.contains_iff_mem.mp h)

theorem ascii_of_mem_text {x : Binary64} : ∀ c ∈ (Binary64.text numberLayout x).toList, c.toNat < 128 := by
  have hnames : ∀ c ∈ "NaN".toList ++ "Infinity".toList, c.toNat < 128 := ascii_of_all (by decide)
  intro c hc
  rcases mem_text hc with h | h
  · exact ascii_of_inNumeral h
  · exact hnames c (List.mem_append.mpr h)

theorem ascii_blanks {blanks : List Char} (h : ∀ c ∈ blanks, Token.isSpace c = true) : ∀ c ∈ blanks, c.toNat < 128 := by
  intro c hc
  have hspace := h c hc
  simp only [Token.isSpace, Bool.or_eq_true, beq_iff_eq] at hspace
  rcases hspace with ((rfl | rfl) | rfl) | rfl <;> decide

/-! ### Texts -/

section Text

variable {style : Style} {p : Char → Prop} (hp : ∀ c, c.toNat < 128 → p c)

include hp

/-- What is written for a character has the property if the style is in ASCII, or if the character has it itself. -/
theorem forall_writeChar_iff {c : Char} : (∀ d ∈ writeChar style c, p d) ↔ style.ascii = true ∨ p c := by
  unfold writeChar
  split
  · next letter hletter =>
    obtain ⟨hc, hl⟩ := ascii_of_shortEscape? hletter
    refine iff_of_true ?_ (.inr (hp c hc))
    rw [List.forall_mem_cons, List.forall_mem_singleton]
    exact ⟨hp _ (by decide), hp letter hl⟩
  -- the other escapes are of units, so the cases that are left are those of the number
  have hunit {n : Nat} : ∀ d ∈ escapeUnit n, p d := fun d hd => hp d (ascii_escapeUnit d hd)
  extract_lets n
  split
  · next hn => exact iff_of_true hunit (.inr (hp c (Nat.lt_trans hn (by decide))))
  split
  · next hplain =>
    rw [List.forall_mem_singleton]
    refine ⟨.inr, fun h => h.elim (fun hascii => ?_) id⟩
    rw [hascii, Bool.not_true, Bool.or_false, decide_eq_true_eq] at hplain
    exact hp c (Nat.lt_trans hplain (by decide))
  · next hplain =>
    obtain ⟨-, hascii⟩ : 0x7F ≤ n ∧ style.ascii = true := by simpa using hplain
    refine iff_of_true ?_ (.inl hascii)
    split
    · exact hunit
    · exact List.forall_mem_append.mpr ⟨hunit, hunit⟩

theorem forall_writeString_iff {s : String} :
    (∀ d ∈ writeString style s, p d) ↔ ∀ c ∈ s.toList, style.ascii = true ∨ p c := by
  have hquote : p '"' := hp _ (by decide)
  rw [writeString, List.forall_mem_cons, List.forall_mem_append, List.forall_mem_singleton, List.forall_mem_flatMap]
  simp only [forall_writeChar_iff hp, hquote, true_and, and_true]

variable (hstyle : style.Lawful)

include hstyle

theorem forall_comma : ∀ c ∈ style.comma, p c := by
  obtain ⟨blanks, hcomma, hblanks⟩ := hstyle.comma_eq
  rw [hcomma, List.forall_mem_cons]
  exact ⟨hp _ (by decide), fun c hc => hp c (ascii_blanks hblanks c hc)⟩

theorem forall_colon : ∀ c ∈ style.colon, p c := by
  obtain ⟨blanks, hcolon, hblanks⟩ := hstyle.colon_eq
  rw [hcolon, List.forall_mem_cons]
  exact ⟨hp _ (by decide), fun c hc => hp c (ascii_blanks hblanks c hc)⟩

theorem forall_writeItems_iff : ∀ {items : List Json},
    (∀ c ∈ writeItems style items, p c) ↔ ∀ v ∈ items, ∀ c ∈ writeChars style v, p c
  | [] => iff_of_true (List.forall_mem_nil _) (List.forall_mem_nil _)
  | [item] => by rw [writeItems, List.forall_mem_singleton]
  | item :: next :: more => by
    rw [writeItems, List.forall_mem_append, List.forall_mem_append, forall_writeItems_iff,
      List.forall_mem_cons (a := item), and_iff_left (forall_comma hp hstyle)]
    exact List.cons_ne_nil _ _

theorem forall_writeMembers_iff : ∀ {members : List (String × Json)}, (∀ c ∈ writeMembers style members, p c) ↔
    ∀ member ∈ members, (∀ c ∈ writeString style member.1, p c) ∧ ∀ c ∈ writeChars style member.2, p c
  | [] => iff_of_true (List.forall_mem_nil _) (List.forall_mem_nil _)
  | [(name, value)] => by
    rw [writeMembers, List.forall_mem_append, List.forall_mem_append, List.forall_mem_singleton,
      and_iff_left (forall_colon hp hstyle)]
  | (name, value) :: next :: more => by
    rw [writeMembers, List.forall_mem_append, List.forall_mem_append, List.forall_mem_append, List.forall_mem_append,
      forall_writeMembers_iff, List.forall_mem_cons (a := (name, value)), and_iff_left (forall_colon hp hstyle),
      and_iff_left (forall_comma hp hstyle)]
    exact List.cons_ne_nil _ _

/-- The text of a value has the property if the style is in ASCII, or if all characters of the value's strings and names
have it. -/
theorem forall_writeChars_iff (v : Json) : (∀ c ∈ writeChars style v, p c) ↔
    v.Every (Says fun c => style.ascii = true ∨ p c) ∧
      v.EveryName fun name => ∀ c ∈ name.toList, style.ascii = true ∨ p c := by
  induction v using Json.induction with
  | null =>
    have hword : ∀ c ∈ "null".toList, c.toNat < 128 := ascii_of_all (by decide)
    exact iff_of_true (fun c hc => hp c (hword c hc)) ⟨trivial, trivial⟩
  | bool b =>
    have hwords : ∀ c ∈ "true".toList ++ "false".toList, c.toNat < 128 := ascii_of_all (by decide)
    refine iff_of_true (fun c hc => hp c (hwords c (List.mem_append.mpr ?_))) ⟨trivial, trivial⟩
    cases b with
    | true => exact .inl hc
    | false => exact .inr hc
  | int n => exact iff_of_true (fun c hc => hp c (ascii_of_inNumeral (inNumeral_writeInt n c hc))) ⟨trivial, trivial⟩
  | float x => exact iff_of_true (fun c hc => hp c (ascii_of_mem_text c hc)) ⟨trivial, trivial⟩
  | str s =>
    rw [writeChars, forall_writeString_iff hp]
    exact (and_iff_left trivial).symm
  | arr items ih =>
    rw [writeChars, List.forall_mem_cons, List.forall_mem_append, List.forall_mem_singleton,
      and_iff_right (hp _ (by decide)), and_iff_left (hp _ (by decide)), forall_writeItems_iff hp hstyle,
      every_arr, everyName_arr, ← forall₂_and]
    exact forall₂_congr ih
  | obj members ih =>
    rw [writeChars, List.forall_mem_cons, List.forall_mem_append, List.forall_mem_singleton,
      and_iff_right (hp _ (by decide)), and_iff_left (hp _ (by decide)), forall_writeMembers_iff hp hstyle,
      every_obj, everyName_obj, ← forall₂_and]
    refine forall₂_congr fun member hmember => ?_
    rw [forall_writeString_iff hp, ih member hmember, and_left_comm]

end Text

/-- In a style of ASCII, every character of the text is in ASCII, whatever the strings and names are. -/
theorem ascii_writeChars {style : Style} (hstyle : style.Lawful) (hascii : style.ascii = true) (v : Json) :
    ∀ c ∈ writeChars style v, c.toNat < 128 := by
  refine (forall_writeChars_iff (fun _ hc => hc) hstyle v).mpr ⟨every_of_forall (fun leaf => ?_) v, ?_⟩
  · cases leaf with
    | str s => exact fun _ _ => .inl hascii
    | _ => trivial
  · exact everyName_of_forall (fun _ _ _ => .inl hascii) v

end DeviceRelay.Json
