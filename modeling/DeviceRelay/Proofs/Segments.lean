import DeviceRelay.Text.Segments

/-!
# Cutting a text and joining the pieces

`split` cuts a text at its separators and `String.intercalate` joins pieces with separators between
them. Neither loses anything the other needs:

    topic ──split sep──▶ segments ──intercalate sep──▶ topic

* `intercalate_split` — whatever the separator, the pieces join to the text they were cut from.
* `split_intercalate` — where the separator is one mark, pieces without that mark are cut out again.
* `cutLast?_eq_some_iff` — the last mark cuts where nothing behind the cut is that mark.

The second fails for longer separators: `"a-"` and `"b"` join over `"--"` to `"a---b"`, which is cut
into `"a"` and `"-b"`.
-/

namespace DeviceRelay.Text

/-! ### Joining -/

theorem joinChars_eq_intercalate (sep : List Char) (pieces : List (List Char)) :
    joinChars sep pieces = sep.intercalate pieces := by
  fun_induction joinChars sep pieces with
  | case1 => rw [List.intercalate_nil]
  | case2 piece => rw [List.intercalate_singleton]
  | case3 piece rest hne ih =>
    have hrest : rest ≠ [] := fun h => hne h
    rw [ih, List.intercalate_cons_of_ne_nil hrest]

/-- Joining texts is joining their characters. -/
theorem toList_intercalate_eq_joinChars (sep : String) (pieces : List String) :
    (String.intercalate sep pieces).toList = joinChars sep.toList (pieces.map String.toList) := by
  rw [joinChars_eq_intercalate, String.toList_intercalate]

/-- Joining the pieces of a text gives the text back, whatever the separator. -/
theorem intercalate_split (sep s : String) : String.intercalate sep (split sep s) = s := by
  have hmap : (split sep s).map String.toList = splitChars sep.toList s.toList := by
    rw [split, List.map_map]
    exact List.map_id'' (fun _ => String.toList_ofList) _
  apply String.toList_inj.mp
  rw [toList_intercalate_eq_joinChars, hmap, join_split]

/-! ### Cutting at one mark -/

section Mark

variable {mark : Char}

theorem splitFrom_mark (mark : Char) (piece rest : List Char) :
    splitFrom [mark] piece (mark :: rest) = piece.reverse :: splitFrom [mark] [] rest := by
  rw [splitFrom, dif_neg (List.cons_ne_nil _ _)]
  split
  · next tail h =>
    have ht : rest = tail := by simpa [after?] using h
    rw [ht]
  · next h => simp [after?] at h

theorem splitFrom_other {c : Char} (h : mark ≠ c) (piece rest : List Char) :
    splitFrom [mark] piece (c :: rest) = splitFrom [mark] (c :: piece) rest := by
  rw [splitFrom, dif_neg (List.cons_ne_nil _ _)]
  split
  · next tail ht => simp [after?, h] at ht
  · rfl

/-- A row without the mark goes to the piece under way, up to the mark or to the end. -/
theorem splitFrom_append {cs : List Char} (h : mark ∉ cs) (piece rest : List Char) :
    splitFrom [mark] piece (cs ++ rest) = splitFrom [mark] (cs.reverse ++ piece) rest := by
  induction cs generalizing piece with
  | nil => rfl
  | cons c cs ih =>
    have hc : mark ≠ c := fun he => h (he ▸ List.mem_cons_self)
    have hcs : mark ∉ cs := fun hm => h (List.mem_cons_of_mem _ hm)
    rw [List.cons_append, splitFrom_other hc, ih hcs]
    simp

/-- Pieces without the mark, joined over it, are cut out again. -/
theorem splitChars_joinChars {pieces : List (List Char)} (hne : pieces ≠ [])
    (h : ∀ piece ∈ pieces, mark ∉ piece) : splitChars [mark] (joinChars [mark] pieces) = pieces := by
  unfold splitChars
  induction pieces with
  | nil => exact absurd rfl hne
  | cons piece rest ih =>
    have hpiece : mark ∉ piece := h piece List.mem_cons_self
    cases rest with
    | nil =>
      show splitFrom [mark] [] piece = [piece]
      have hcut := splitFrom_append hpiece [] []
      rw [List.append_nil] at hcut
      rw [hcut, splitFrom]
      simp
    | cons next more =>
      have hmore := ih (List.cons_ne_nil _ _) fun p hp => h p (List.mem_cons_of_mem _ hp)
      rw [joinChars_cons (List.cons_ne_nil _ _), List.append_assoc, splitFrom_append hpiece,
        List.singleton_append, splitFrom_mark, hmore]
      simp

/-- Texts without the mark, joined over it, are cut out again. -/
theorem split_intercalate {segments : List String} (hne : segments ≠ [])
    (h : ∀ s ∈ segments, mark ∉ s.toList) :
    split (String.singleton mark) (String.intercalate (String.singleton mark) segments) =
      segments := by
  have hsep : (String.singleton mark).toList = [mark] := String.toList_singleton mark
  have hfree : ∀ piece ∈ segments.map String.toList, mark ∉ piece := by
    intro piece hp
    obtain ⟨s, hs, rfl⟩ := List.mem_map.mp hp
    exact h s hs
  have hpieces : segments.map String.toList ≠ [] := by simpa using hne
  rw [split, toList_intercalate_eq_joinChars, hsep, splitChars_joinChars hpieces hfree, List.map_map]
  exact List.map_id'' (fun _ => String.ofList_toList) _

/-! ### Cutting at the last mark -/

theorem cutLast?_append {back : List Char} (h : mark ∉ back) (front : List Char) :
    cutLast? mark (front ++ mark :: back) = some (front, back) := by
  have hback : ∀ c ∈ back.reverse, decide (c ≠ mark) = true := by
    intro c hc
    have : c ≠ mark := fun he => h (he ▸ List.mem_reverse.mp hc)
    simpa using this
  have hrev : (front ++ mark :: back).reverse = back.reverse ++ mark :: front.reverse := by simp
  rw [cutLast?, hrev, List.dropWhile_append_of_pos hback, List.takeWhile_append_of_pos hback,
    List.dropWhile_cons_of_neg (by simp), List.takeWhile_cons_of_neg (by simp)]
  simp

/-- A text is cut where nothing behind the mark is the mark, and so at the last one. -/
theorem cutLast?_eq_some_iff {cs front back : List Char} :
    cutLast? mark cs = some (front, back) ↔ cs = front ++ mark :: back ∧ mark ∉ back := by
  constructor
  · intro h
    have hparts := List.takeWhile_append_dropWhile (p := fun c => decide (c ≠ mark)) (l := cs.reverse)
    unfold cutLast? at h
    split at h
    · simp at h
    · next c tail hd =>
      obtain ⟨rfl, rfl⟩ := Prod.mk.inj (Option.some.inj h)
      have hc : c = mark := by
        have := List.head?_dropWhile_not (fun c => decide (c ≠ mark)) cs.reverse
        rw [hd] at this
        simpa using this
      refine ⟨?_, ?_⟩
      · rw [hd, hc] at hparts
        have := congrArg List.reverse hparts
        simpa using this.symm
      · intro hm
        have hall := List.all_takeWhile (p := fun c => decide (c ≠ mark)) (l := cs.reverse)
        have := List.all_eq_true.mp hall mark (List.mem_reverse.mp hm)
        simp at this
  · rintro ⟨rfl, h⟩
    exact cutLast?_append h front

end Mark

end DeviceRelay.Text
