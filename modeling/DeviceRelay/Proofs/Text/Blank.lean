import DeviceRelay.Text.Blank

/-!
# Trimmed texts

Trimming takes a text apart into what is dropped in front, what is kept, and what is dropped behind. What is
kept neither begins nor ends with a mark that is dropped, and that determines it.

* `trimBy_decompose` — the three parts.
* `head?_trimBy`, `getLast?_trimBy` — how what is kept begins and ends.
* `trimBy_between` — a text that begins and ends with marks that stay is what is kept of it with dropped marks
  around it.
-/

namespace DeviceRelay.Text

variable {p : Char → Bool}

theorem head?_dropWhile {cs : List Char} {c : Char} (h : (cs.dropWhile p).head? = some c) :
    p c = false := by
  have hnot := List.head?_dropWhile_not p cs
  rwa [h] at hnot

theorem dropWhile_of_head? {cs : List Char} (h : ∀ c ∈ cs.head?, p c = false) :
    cs.dropWhile p = cs := by
  cases cs with
  | nil => rfl
  | cons c rest => exact List.dropWhile_cons_of_neg (by simp [h c rfl])

/-- What trimming drops behind what it keeps. -/
theorem dropWhile_eq_trimBy_append (p : Char → Bool) (cs : List Char) :
    cs.dropWhile p = trimBy p cs ++ ((cs.dropWhile p).reverse.takeWhile p).reverse := by
  rw [trimBy, ← List.reverse_append, List.takeWhile_append_dropWhile, List.reverse_reverse]

/-- What trimming drops in front and behind, with what it keeps in between. -/
theorem trimBy_decompose (p : Char → Bool) (cs : List Char) :
    ∃ front back, cs = front ++ trimBy p cs ++ back ∧ front.all p ∧ back.all p := by
  refine ⟨cs.takeWhile p, ((cs.dropWhile p).reverse.takeWhile p).reverse, ?_, List.all_takeWhile, ?_⟩
  · rw [List.append_assoc, ← dropWhile_eq_trimBy_append, List.takeWhile_append_dropWhile]
  · rw [List.all_reverse]
    exact List.all_takeWhile

theorem head?_trimBy {cs : List Char} {c : Char} (h : (trimBy p cs).head? = some c) :
    p c = false := by
  have hdrop : (cs.dropWhile p).head? = some c := by
    rw [dropWhile_eq_trimBy_append, List.head?_append, h]
    rfl
  exact head?_dropWhile hdrop

theorem getLast?_trimBy {cs : List Char} {c : Char} (h : (trimBy p cs).getLast? = some c) :
    p c = false := by
  rw [trimBy, List.getLast?_reverse] at h
  exact head?_dropWhile h

/-- Marks that are dropped change nothing around a text that begins and ends with marks that stay. -/
theorem trimBy_between {front cs back : List Char} (hfront : front.all p) (hback : back.all p)
    (hne : cs ≠ []) (hhead : ∀ c ∈ cs.head?, p c = false) (hlast : ∀ c ∈ cs.getLast?, p c = false) :
    trimBy p (front ++ cs ++ back) = cs := by
  have hdropFront : (front ++ cs ++ back).dropWhile p = cs ++ back := by
    rw [List.append_assoc, List.dropWhile_append_of_pos (List.all_eq_true.mp hfront)]
    apply dropWhile_of_head?
    cases cs with
    | nil => exact absurd rfl hne
    | cons c rest => exact hhead
  rw [trimBy, hdropFront, List.reverse_append, List.dropWhile_append_of_pos, dropWhile_of_head?,
    List.reverse_reverse]
  · rwa [List.head?_reverse]
  · rw [← List.all_eq_true, List.all_reverse]
    exact hback

/-- A mark that is not dropped stays. -/
theorem mem_trimBy {cs : List Char} {c : Char} (h : c ∈ cs) (hc : p c = false) : c ∈ trimBy p cs := by
  obtain ⟨front, back, hcs, hfront, hback⟩ := trimBy_decompose p cs
  rw [hcs, List.mem_append, List.mem_append] at h
  rcases h with (h | h) | h
  · exact absurd (List.all_eq_true.mp hfront c h) (by simp [hc])
  · exact h
  · exact absurd (List.all_eq_true.mp hback c h) (by simp [hc])

end DeviceRelay.Text
