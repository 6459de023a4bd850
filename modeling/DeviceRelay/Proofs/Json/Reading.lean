import DeviceRelay.Json.Reader
import DeviceRelay.Proofs.Json.Tokens

/-!
# Reading what is written

    Json ──writeChars style──▶ text ──read limits──▶ Json

Main statement: `read_writeChars`, a value within the limits is read back from a text that was written
for it. The induction is on the value, and what it says of one is that the reader passes from its tokens
to the value without a look at the frames:

    run limits .value frames (tokens v ++ rest) = run limits (.after v) frames rest
-/

namespace DeviceRelay.Json

open Token

/-! ### Properties of all leaves -/

mutual

/-- The property holds of every value inside that has no parts. -/
def Every (p : Json → Prop) : Json → Prop
  | .null => p .null
  | .bool b => p (.bool b)
  | .int n => p (.int n)
  | .float x => p (.float x)
  | .str s => p (.str s)
  | .arr items => EveryItem p items
  | .obj members => EveryMember p members

/-- The property holds of every such value in the items. -/
def EveryItem (p : Json → Prop) : List Json → Prop
  | [] => True
  | item :: rest => item.Every p ∧ EveryItem p rest

/-- The property holds of every such value in the members. -/
def EveryMember (p : Json → Prop) : List (String × Json) → Prop
  | [] => True
  | (_, value) :: rest => value.Every p ∧ EveryMember p rest

end

theorem everyItem_iff {p : Json → Prop} {items : List Json} :
    EveryItem p items ↔ ∀ item ∈ items, item.Every p := by
  induction items with
  | nil => simp [EveryItem]
  | cons item rest ih => simp [EveryItem, ih]

theorem everyMember_iff {p : Json → Prop} {members : List (String × Json)} :
    EveryMember p members ↔ ∀ member ∈ members, member.2.Every p := by
  induction members with
  | nil => simp [EveryMember]
  | cons member rest ih => simp [EveryMember, ih]

/-! ### Limits -/

mutual

/-- How many arrays and objects stand inside one another; empty ones do not count. -/
def depth : Json → Nat
  | .arr items => if items.isEmpty then 0 else itemDepth items + 1
  | .obj members => if members.isEmpty then 0 else memberDepth members + 1
  | _ => 0

/-- The depth of the deepest item. -/
def itemDepth : List Json → Nat
  | [] => 0
  | item :: rest => max (depth item) (itemDepth rest)

/-- The depth of the deepest member. -/
def memberDepth : List (String × Json) → Nat
  | [] => 0
  | (_, value) :: rest => max (depth value) (memberDepth rest)

end

theorem itemDepth_le_iff {items : List Json} {n : Nat} :
    itemDepth items ≤ n ↔ ∀ item ∈ items, item.depth ≤ n := by
  induction items with
  | nil => simp [itemDepth]
  | cons item rest ih => rw [itemDepth, Nat.max_le, ih, List.forall_mem_cons]

theorem memberDepth_cons_le {v : Json} {rest : List (String × Json)} {m n : Nat} (name : String)
    (hv : v.depth ≤ m) (hrest : memberDepth rest ≤ n) :
    memberDepth ((name, v) :: rest) ≤ max m n := by
  rw [memberDepth]
  omega

theorem depth_le_itemDepth (item : Json) (rest : List Json) :
    item.depth ≤ itemDepth (item :: rest) ∧ itemDepth rest ≤ itemDepth (item :: rest) := by
  rw [itemDepth]
  omega

theorem depth_le_memberDepth (name : String) (v : Json) (rest : List (String × Json)) :
    v.depth ≤ memberDepth ((name, v) :: rest) ∧ memberDepth rest ≤ memberDepth ((name, v) :: rest) := by
  rw [memberDepth]
  omega

theorem depth_arr_le (items : List Json) : (Json.arr items).depth ≤ itemDepth items + 1 := by
  rw [depth]
  split <;> omega

theorem depth_obj_le (members : List (String × Json)) :
    (Json.obj members).depth ≤ memberDepth members + 1 := by
  rw [depth]
  split <;> omega

/-- A leaf that is read back from what is written for it: a number needs few enough digits. -/
def Limits.Legible (limits : Limits) : Json → Prop
  | .int n => ∀ limit ∈ limits.digits, digitCount n ≤ limit
  | .float x => ∃ digits, ofWord (Binary64.text numberLayout x).toList = [.float x digits] ∧
      ∀ limit ∈ limits.wholeDigits, digits ≤ limit
  | _ => True

/-- So many arrays and objects may stand inside one another. -/
def Limits.AllowsDepth (limits : Limits) (n : Nat) : Prop := ∀ bound ∈ limits.depth, n ≤ bound

theorem Limits.AllowsDepth.mono {limits : Limits} {m n : Nat} (h : limits.AllowsDepth n) (hm : m ≤ n) :
    limits.AllowsDepth m :=
  fun bound hb => Nat.le_trans hm (h bound hb)

/-- A value within the limits. -/
structure Limits.Admits (limits : Limits) (v : Json) : Prop where
  legible : v.Every limits.Legible
  depth : limits.AllowsDepth v.depth

/-! ### The reader on the tokens of a value -/

section Run

variable {limits : Limits}

theorem open?_eq_ok {frames : List Frame} (h : limits.AllowsDepth (frames.length + 1))
    (frame : Frame) : open? limits frame frames = .ok (frame :: frames) := by
  unfold open?
  split
  · next bound hbound =>
    have := h bound hbound
    rw [if_neg (by omega)]
  · rfl

theorem number_eq_ok {limit : Option Nat} {digits : Nat} (h : ∀ bound ∈ limit, digits ≤ bound)
    (v : Json) : number limit digits v = .ok v := by
  unfold number
  split
  · next bound =>
    have := h bound rfl
    rw [if_neg (by omega)]
  · rfl

theorem run_cons_error {due : Due} {frames : List Frame} {t : Token} {fault : Fault}
    (h : step limits due frames t = .error fault) (rest : List Token) :
    run limits due frames (t :: rest) = .error fault := by
  cases due <;> simp only [run, h]

theorem run_cons {due due' : Due} {frames frames' : List Frame} {t : Token}
    (h : step limits due frames t = .ok (due', frames')) (rest : List Token) :
    run limits due frames (t :: rest) = run limits due' frames' rest := by
  cases due <;> simp only [run, h]

/-- A leaf is one token, at which the reader has the leaf. -/
theorem run_leaf {v : Json} {t : Token} (h : readValue limits t = .ok (.after v))
    (frames : List Frame) (rest : List Token) :
    run limits .value frames (t :: rest) = run limits (.after v) frames rest :=
  run_cons (by rw [step, h]; rfl) rest

/-- The tokens of a value begin with one that ends no array. -/
theorem tokens_eq_cons {v : Json} (h : v.Every limits.Legible) :
    ∃ t rest, tokens v = t :: rest ∧ t ≠ .closeArray := by
  cases v with
  | float x =>
    obtain ⟨digits, hx, -⟩ := h
    exact ⟨_, [], by rw [tokens, hx], by simp⟩
  | _ => exact ⟨_, _, by rw [tokens], by simp⟩

theorem itemTokens_eq_cons {item : Json} (more : List Json) (h : item.Every limits.Legible) :
    ∃ t rest, itemTokens (item :: more) = t :: rest ∧ t ≠ .closeArray := by
  obtain ⟨t, rest, hitem, ht⟩ := tokens_eq_cons h
  cases more with
  | nil => exact ⟨t, rest, by rw [itemTokens, hitem], ht⟩
  | cons next more =>
    refine ⟨t, rest ++ .comma :: itemTokens (next :: more), ?_, ht⟩
    rw [itemTokens, hitem, List.cons_append]
    exact List.cons_ne_nil _ _

theorem memberTokens_eq_cons (member : String × Json) (more : List (String × Json)) :
    ∃ rest, memberTokens (member :: more) = .str member.1 :: rest := by
  cases more with
  | nil => exact ⟨_, rfl⟩
  | cons next more => exact ⟨_, rfl⟩

/-- Where the first item of an array is due, the array's frame is opened. -/
theorem run_firstItem {frames : List Frame} (h : limits.AllowsDepth (frames.length + 1))
    {t : Token} (ht : t ≠ .closeArray) (rest : List Token) :
    run limits .firstItem frames (t :: rest) =
      run limits .value (.array [] :: frames) (t :: rest) := by
  have hstep : step limits .firstItem frames t = step limits .value (.array [] :: frames) t := by
    simp only [step, if_neg ht, open?_eq_ok h]
    cases readValue limits t <;> rfl
  rw [run, run, hstep]

/-- Where the first name of an object is due, it is read as any other. -/
theorem run_firstName (name : String) (frames : List Frame) (rest : List Token) :
    run limits .firstName frames (.str name :: rest) =
      run limits (.name []) frames (.str name :: rest) := by
  rw [run_cons rfl, run_cons rfl]

/-- A name, a colon and the value's frame. -/
theorem run_name {frames : List Frame} (h : limits.AllowsDepth (frames.length + 1))
    (front : List (String × Json)) (name : String) (rest : List Token) :
    run limits (.name front) frames (.str name :: .colon :: rest) =
      run limits .value (.object front name :: frames) rest := by
  have hcolon : step limits (.colon front name) frames .colon =
      .ok (.value, .object front name :: frames) := by
    rw [step, if_pos rfl, open?_eq_ok h]
    rfl
  rw [run_cons rfl, run_cons hcolon]

mutual

/-- The reader passes from the tokens of a value to the value. -/
theorem run_tokens : ∀ (v : Json) (frames : List Frame) (rest : List Token),
    v.Every limits.Legible → limits.AllowsDepth (frames.length + v.depth) →
      run limits .value frames (tokens v ++ rest) = run limits (.after v) frames rest
  | .null, frames, rest, _, _ => run_leaf rfl frames rest
  | .bool b, frames, rest, _, _ => run_leaf rfl frames rest
  | .int n, frames, rest, hv, _ => by
    have hread : readValue limits (.int n (digitCount n)) = .ok (.after (.int n)) := by
      rw [readValue, number_eq_ok hv]
      rfl
    exact run_leaf hread frames rest
  | .float x, frames, rest, hv, _ => by
    obtain ⟨digits, hx, hdigits⟩ := hv
    have hread : readValue limits (.float x digits) = .ok (.after (.float x)) := by
      rw [readValue, number_eq_ok hdigits]
      rfl
    rw [tokens, hx]
    exact run_leaf hread frames rest
  | .str s, frames, rest, _, _ => run_leaf rfl frames rest
  | .arr [], frames, rest, _, _ => by
    show run limits .value frames (.openArray :: .closeArray :: rest) = _
    rw [run_cons rfl, run_cons rfl]
  | .arr (item :: more), frames, rest, hv, hd => by
    have hopen : limits.AllowsDepth (frames.length + 1) :=
      hd.mono (Nat.add_le_add_left (Nat.le_add_left 1 _) _)
    have hitems := run_items (item :: more) [] frames rest (List.cons_ne_nil _ _) hv hd
    -- the frame is opened at the first token of the first item, which is no closing bracket
    obtain ⟨t, tail, htail, ht⟩ := itemTokens_eq_cons more hv.1
    have hfirst := run_firstItem hopen ht (tail ++ .closeArray :: rest)
    rw [← List.cons_append, ← htail] at hfirst
    rw [tokens, List.cons_append, List.append_assoc, run_cons rfl, List.singleton_append, hfirst,
      hitems]
    rfl
  | .obj [], frames, rest, _, _ => by
    show run limits .value frames (.openObject :: .closeObject :: rest) = _
    rw [run_cons rfl, run_cons rfl]
  | .obj (member :: more), frames, rest, hv, hd => by
    have hmembers := run_members (member :: more) [] frames rest (List.cons_ne_nil _ _) hv hd
    obtain ⟨tail, htail⟩ := memberTokens_eq_cons member more
    have hfirst : run limits .firstName frames (.str member.1 :: (tail ++ .closeObject :: rest)) = _ :=
      run_firstName member.1 frames _
    rw [← List.cons_append, ← htail] at hfirst
    rw [tokens, List.cons_append, List.append_assoc, run_cons rfl, List.singleton_append, hfirst,
      hmembers]
    rfl

/-- The reader passes from the tokens of an array's items to the array. -/
theorem run_items : ∀ (items front : List Json) (frames : List Frame) (rest : List Token),
    items ≠ [] → EveryItem limits.Legible items →
    limits.AllowsDepth (frames.length + (itemDepth items + 1)) →
      run limits .value (.array front :: frames) (itemTokens items ++ .closeArray :: rest) =
        run limits (.after (.arr (front.reverse ++ items))) frames rest
  | [], _, _, _, hne, _, _ => absurd rfl hne
  | [item], front, frames, rest, _, hv, hd => by
    have hdepth := depth_le_itemDepth item []
    have hitem := run_tokens item (.array front :: frames) (.closeArray :: rest) hv.1
      (hd.mono (by rw [List.length_cons]; omega))
    rw [itemTokens, hitem, run_cons rfl, List.reverse_cons]
  | item :: next :: more, front, frames, rest, _, hv, hd => by
    have hdepth := depth_le_itemDepth item (next :: more)
    have hitem := run_tokens item (.array front :: frames)
      (.comma :: (itemTokens (next :: more) ++ .closeArray :: rest)) hv.1
      (hd.mono (by rw [List.length_cons]; omega))
    -- the comma moves the item into the frame
    have hmore := run_items (next :: more) (item :: front) frames rest (List.cons_ne_nil _ _) hv.2
      (hd.mono (by omega))
    rw [itemTokens, List.append_assoc, List.cons_append, hitem, run_cons rfl, hmore,
      List.reverse_cons, List.append_assoc, List.singleton_append]
    exact List.cons_ne_nil _ _

/-- The reader passes from the tokens of an object's members to the object. -/
theorem run_members : ∀ (members front : List (String × Json)) (frames : List Frame)
    (rest : List Token), members ≠ [] → EveryMember limits.Legible members →
    limits.AllowsDepth (frames.length + (memberDepth members + 1)) →
      run limits (.name front) frames (memberTokens members ++ .closeObject :: rest) =
        run limits (.after (.obj (front.reverse ++ members))) frames rest
  | [], _, _, _, hne, _, _ => absurd rfl hne
  | [(name, value)], front, frames, rest, _, hv, hd => by
    have hopen : limits.AllowsDepth (frames.length + 1) := hd.mono (by omega)
    have hdepth := depth_le_memberDepth name value []
    have hvalue := run_tokens value (.object front name :: frames) (.closeObject :: rest) hv.1
      (hd.mono (by rw [List.length_cons]; omega))
    rw [memberTokens, List.cons_append, List.cons_append, run_name hopen, hvalue, run_cons rfl,
      List.reverse_cons]
  | (name, value) :: next :: more, front, frames, rest, _, hv, hd => by
    have hopen : limits.AllowsDepth (frames.length + 1) := hd.mono (by omega)
    have hdepth := depth_le_memberDepth name value (next :: more)
    have hvalue := run_tokens value (.object front name :: frames)
      (.comma :: (memberTokens (next :: more) ++ .closeObject :: rest)) hv.1
      (hd.mono (by rw [List.length_cons]; omega))
    -- the comma closes the member's frame; the next name opens one of its own
    have hmore := run_members (next :: more) ((name, value) :: front) frames rest
      (List.cons_ne_nil _ _) hv.2 (hd.mono (by omega))
    rw [memberTokens, List.cons_append, List.cons_append, List.append_assoc, List.cons_append,
      run_name hopen, hvalue, run_cons rfl, hmore, List.reverse_cons, List.append_assoc,
      List.singleton_append]
    exact List.cons_ne_nil _ _

end

end Run

/-- A value within the limits is read back from its text. -/
theorem read_writeChars {limits : Limits} {style : Style} (hstyle : style.Lawful) {v : Json}
    (h : limits.Admits v) : read limits (writeChars style v) = .ok v := by
  have hlex := lex_writeChars hstyle v [] endsWord_nil
  have hrun := run_tokens v [] [] h.legible (h.depth.mono (by simp))
  rw [List.append_nil] at hlex hrun
  rw [read, ofTokens, hlex, lex, List.append_nil, hrun, run]

end DeviceRelay.Json
