import DeviceRelay.Proofs.Checked
import DeviceRelay.Proofs.Json.Reading
import Mathlib.Algebra.Group.Nat.Defs

/-!
# The digits of what is read

Main statement: `fewDigits_of_read`, the integers that are read have no more digits than the limits
allow. A token says how many digits it was read from, which are enough for its value (`Token.Honest`),
and the reader looks at that number once, where the token comes in. From there it is an invariant of the
reader's state, `Few`: one token keeps it (`few_step`), and so do all (`every_of_run`).
-/

namespace DeviceRelay.Json

open Token

/-! ### Tokens -/

/-- An integer of a token has no more digits than the token says. -/
def Token.Honest : Token → Prop
  | .int n digits => digitCount n ≤ digits
  | _ => True

theorem digitsValue_lt {cs : List Char} (h : ∀ c ∈ cs, c.isDigit = true) :
    Binary64.digitsValue cs < 10 ^ cs.length := by
  rw [digitsValue_eq_ofDigitChars]
  induction cs with
  | nil => simp
  | cons c cs ih =>
    have hrest := ih fun d hd => h d (List.mem_cons_of_mem _ hd)
    have hc := (Char.isDigit_iff_toNat.mp (h c List.mem_cons_self)).2
    have hdigit : c.toNat - '0'.toNat ≤ 9 := Nat.sub_le_of_le_add hc
    have hhead : 10 ^ cs.length * (c.toNat - '0'.toNat) ≤ 10 ^ cs.length * 9 :=
      Nat.mul_le_mul_left _ hdigit
    rw [Nat.ofDigitChars_cons, Nat.ofDigitChars_eq_ofDigitChars_zero, List.length_cons, Nat.pow_succ,
      Nat.mul_zero, Nat.zero_add]
    omega

theorem isDigit_cutWhole (cs : List Char) : ∀ c ∈ (cutWhole cs).1, c.isDigit = true := by
  intro c hc
  unfold cutWhole at hc
  split at hc
  · rw [List.mem_singleton.mp hc]
    rfl
  · exact List.all_eq_true.mp List.all_takeWhile c hc

/-- The digits of a whole part are enough for its value, whatever the sign. -/
theorem digitCount_le {n : Int} {whole : List Char} (hne : whole ≠ [])
    (hdigits : ∀ c ∈ whole, c.isDigit = true) (hn : n.natAbs = Binary64.digitsValue whole) :
    digitCount n ≤ whole.length := by
  rw [digitCount, hn, Nat.length_toDigits_le_iff (by decide) (List.length_pos_iff.mpr hne)]
  exact digitsValue_lt hdigits

theorem honest_of_number? {cs rest : List Char} {t : Token} (h : number? cs = some (t, rest)) :
    t.Honest := by
  unfold number? at h
  split at h
  next negative body _ =>
  dsimp only at h
  split at h
  · cases h
  next hne =>
  split at h
  · obtain ⟨rfl, -⟩ := Prod.mk.inj (Option.some.inj h)
    refine digitCount_le (by simpa using hne) (isDigit_cutWhole _) ?_
    split
    · rw [Int.natAbs_neg, Int.natAbs_natCast]
    · rw [Int.natAbs_natCast]
  · obtain ⟨rfl, -⟩ := Prod.mk.inj (Option.some.inj h)
    trivial

theorem honest_of_named? {word : List Char} {t : Token} (h : named? word = some t) : t.Honest := by
  unfold named? at h
  split at h <;> cases h <;> trivial

theorem honest_of_mem_ofWord {word : List Char} {t : Token} (ht : t ∈ ofWord word) : t.Honest := by
  unfold ofWord at ht
  split at ht
  · next hnamed =>
    rw [List.mem_singleton.mp ht]
    exact honest_of_named? hnamed
  · next hnumber =>
    rw [List.mem_singleton.mp ht]
    exact honest_of_number? hnumber
  · next hnumber =>
    rcases List.mem_cons.mp ht with rfl | ht
    · exact honest_of_number? hnumber
    · rw [List.mem_singleton.mp ht]
      trivial
  · rw [List.mem_singleton.mp ht]
    trivial

theorem honest_of_mark? {c : Char} {t : Token} (h : mark? c = some t) : t.Honest := by
  unfold mark? at h
  split at h <;> cases h <;> trivial

theorem honest_of_mem_lex {cs : List Char} {t : Token} (ht : t ∈ lex cs) : t.Honest := by
  fun_induction lex cs with
  | case1 => cases ht
  | case2 c rest hc ih => exact ih ht
  | case3 c rest hc mark hmark ih =>
    rcases List.mem_cons.mp ht with rfl | ht
    · exact honest_of_mark? hmark
    · exact ih ht
  | case4 rest hcut hc hmark =>
    rw [List.mem_singleton.mp ht]
    trivial
  | case5 rest inside tail hcut hinside hc hmark =>
    rw [List.mem_singleton.mp ht]
    trivial
  | case6 rest inside tail hcut cs hinside hc hmark ih =>
    rcases List.mem_cons.mp ht with rfl | ht
    · trivial
    · exact ih ht
  | case7 c rest hc hmark hquote ih =>
    rcases List.mem_append.mp ht with ht | ht
    · exact honest_of_mem_ofWord ht
    · exact ih ht

/-- An integer has at most so many digits. -/
def FewDigits (limit : Nat) : Json → Prop
  | .int n => digitCount n ≤ limit
  | _ => True

/-- The property holds of every value without parts in what is due. -/
def Due.Every (p : Json → Prop) : Due → Prop
  | .value | .firstItem | .firstName => True
  | .name front | .colon front _ => EveryMember p front
  | .after v => v.Every p

/-- The property holds of every value without parts in what a frame holds. -/
def Frame.Every (p : Json → Prop) : Frame → Prop
  | .array front => EveryItem p front
  | .object front _ => EveryMember p front

/-- The reader's invariant: nowhere in its state is an integer of too many digits. -/
structure Few (limit : Nat) (due : Due) (frames : List Frame) : Prop where
  due : due.Every (FewDigits limit)
  frames : ∀ frame ∈ frames, frame.Every (FewDigits limit)

theorem EveryItem.reverse {p : Json → Prop} {items : List Json} (h : EveryItem p items) :
    EveryItem p items.reverse := by
  rw [everyItem_iff] at h ⊢
  intro item hitem
  exact h item (List.mem_reverse.mp hitem)

theorem EveryMember.reverse {p : Json → Prop} {members : List (String × Json)}
    (h : EveryMember p members) : EveryMember p members.reverse := by
  rw [everyMember_iff] at h ⊢
  intro member hmember
  exact h member (List.mem_reverse.mp hmember)

section Step

variable {limits : Limits} {limit : Nat}

theorem eq_of_number {bound : Option Nat} {digits : Nat} {v w : Json}
    (h : number bound digits v = .ok w) : w = v ∧ ∀ n ∈ bound, digits ≤ n := by
  unfold number at h
  split at h
  · next n =>
    split at h
    · cases h
    · next hle =>
      obtain rfl := Except.ok.inj h
      refine ⟨rfl, fun m hm => ?_⟩
      obtain rfl := Option.some.inj hm
      omega
  · obtain rfl := Except.ok.inj h
    exact ⟨rfl, fun m hm => nomatch hm⟩

theorem eq_of_open? {frame : Frame} {frames frames' : List Frame}
    (h : open? limits frame frames = .ok frames') : frames' = frame :: frames := by
  unfold open? at h
  split at h
  · split at h
    · cases h
    · exact (Except.ok.inj h).symm
  · exact (Except.ok.inj h).symm

theorem every_of_readValue (hlimit : limits.digits = some limit) {t : Token} (ht : t.Honest)
    {due : Due} (h : readValue limits t = .ok due) : due.Every (FewDigits limit) := by
  cases t with
  | int n digits =>
    obtain ⟨v, hv, rfl⟩ := map_eq_ok.mp h
    obtain ⟨rfl, hdigits⟩ := eq_of_number hv
    exact Nat.le_trans ht (hdigits limit hlimit)
  | float x digits =>
    obtain ⟨v, hv, rfl⟩ := map_eq_ok.mp h
    obtain ⟨rfl, -⟩ := eq_of_number hv
    trivial
  | null | bool | str | openArray | openObject =>
    obtain rfl := Except.ok.inj h
    trivial
  | closeArray | closeObject | comma | colon | bad => cases h

theorem few_of_readAfter {v : Json} {frames frames' : List Frame} {t : Token} {due : Due}
    (hfew : Few limit (.after v) frames) (h : readAfter v frames t = .ok (due, frames')) :
    Few limit due frames' := by
  obtain ⟨hv, hframes⟩ := hfew
  unfold readAfter at h
  split at h
  · obtain ⟨rfl, rfl⟩ := Prod.mk.inj (Except.ok.inj h)
    obtain ⟨hfront, houter⟩ := List.forall_mem_cons.mp hframes
    exact ⟨trivial, List.forall_mem_cons.mpr ⟨⟨hv, hfront⟩, houter⟩⟩
  · obtain ⟨rfl, rfl⟩ := Prod.mk.inj (Except.ok.inj h)
    obtain ⟨hfront, houter⟩ := List.forall_mem_cons.mp hframes
    exact ⟨EveryItem.reverse ⟨hv, hfront⟩, houter⟩
  · obtain ⟨rfl, rfl⟩ := Prod.mk.inj (Except.ok.inj h)
    obtain ⟨hfront, houter⟩ := List.forall_mem_cons.mp hframes
    exact ⟨⟨hv, hfront⟩, houter⟩
  · obtain ⟨rfl, rfl⟩ := Prod.mk.inj (Except.ok.inj h)
    obtain ⟨hfront, houter⟩ := List.forall_mem_cons.mp hframes
    exact ⟨EveryMember.reverse ⟨hv, hfront⟩, houter⟩
  · cases h

/-- One token keeps the invariant. -/
theorem few_step (hlimit : limits.digits = some limit) {t : Token} (ht : t.Honest) {due due' : Due}
    {frames frames' : List Frame} (hfew : Few limit due frames)
    (h : step limits due frames t = .ok (due', frames')) : Few limit due' frames' := by
  obtain ⟨hdue, hframes⟩ := hfew
  cases due with
  | value =>
    obtain ⟨next, hnext, heq⟩ := map_eq_ok.mp h
    obtain ⟨rfl, rfl⟩ := Prod.mk.inj heq
    exact ⟨every_of_readValue hlimit ht hnext, hframes⟩
  | firstItem =>
    rw [step] at h
    split at h
    · obtain ⟨rfl, rfl⟩ := Prod.mk.inj (Except.ok.inj h)
      exact ⟨trivial, hframes⟩
    · obtain ⟨opened, hopen, h⟩ := bind_eq_ok.mp h
      obtain ⟨next, hnext, heq⟩ := bind_eq_ok.mp h
      obtain ⟨rfl, rfl⟩ := Prod.mk.inj (Except.ok.inj heq)
      obtain rfl := eq_of_open? hopen
      exact ⟨every_of_readValue hlimit ht hnext, List.forall_mem_cons.mpr ⟨trivial, hframes⟩⟩
  | firstName =>
    rw [step.eq_def] at h
    dsimp only at h
    split at h
    · obtain ⟨rfl, rfl⟩ := Prod.mk.inj (Except.ok.inj h)
      exact ⟨trivial, hframes⟩
    · obtain ⟨rfl, rfl⟩ := Prod.mk.inj (Except.ok.inj h)
      exact ⟨trivial, hframes⟩
    · cases h
  | name front =>
    rw [step.eq_def] at h
    dsimp only at h
    split at h
    · obtain ⟨rfl, rfl⟩ := Prod.mk.inj (Except.ok.inj h)
      exact ⟨hdue, hframes⟩
    · cases h
  | colon front name =>
    rw [step] at h
    split at h
    · obtain ⟨opened, hopen, heq⟩ := map_eq_ok.mp h
      obtain ⟨rfl, rfl⟩ := Prod.mk.inj heq
      obtain rfl := eq_of_open? hopen
      exact ⟨trivial, List.forall_mem_cons.mpr ⟨hdue, hframes⟩⟩
    · cases h
  | after v => exact few_of_readAfter ⟨hdue, hframes⟩ h

/-- All tokens keep it, so that it holds of what is read at last. -/
theorem every_of_run (hlimit : limits.digits = some limit) {tokens : List Token}
    (htokens : ∀ t ∈ tokens, t.Honest) {due : Due} {frames : List Frame} {v : Json}
    (hfew : Few limit due frames) (h : run limits due frames tokens = .ok v) :
    v.Every (FewDigits limit) := by
  induction tokens generalizing due frames with
  | nil =>
    cases due with
    | after w =>
      cases frames with
      | nil =>
        obtain rfl := Except.ok.inj h
        exact hfew.due
      | cons => cases h
    | _ => cases h
  | cons t rest ih =>
    obtain ⟨ht, hrest⟩ := List.forall_mem_cons.mp htokens
    cases hstep : step limits due frames t with
    | error fault =>
      rw [run_cons_error hstep] at h
      cases h
    | ok next =>
      rw [run_cons hstep] at h
      exact ih hrest (few_step hlimit ht hfew hstep) h

end Step

/-- An integer that is read has no more digits than the limits allow. -/
theorem fewDigits_of_read {limits : Limits} {limit : Nat} (hlimit : limits.digits = some limit)
    {text : List Char} {v : Json} (h : read limits text = .ok v) : v.Every (FewDigits limit) := by
  have hstart : Few limit .value [] := ⟨trivial, List.forall_mem_nil _⟩
  exact every_of_run hlimit (fun t ht => honest_of_mem_lex ht) hstart h

end DeviceRelay.Json
