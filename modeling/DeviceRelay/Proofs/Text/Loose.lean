import DeviceRelay.Proofs.Fault
import DeviceRelay.Text.Loose

/-!
# Texts with surrogates, point by point

A text that may be torn is a row of code points, and every row is such a text in one way: torn at its first surrogate if
it has one, and a text of characters otherwise. So what is said of texts by cases may be said of all their code points.

* `LooseText.points_ofPoints`, `LooseText.ofPoints_points` — a text and its row of code points.
* `Charset.isSearchable_iff` — the code points of a name that can be looked for.
-/

namespace DeviceRelay

namespace LooseText

/-- The code points of a text. -/
def points : LooseText → List CodePoint
  | .text s => s.toList.map .char
  | .torn t => t.before.toList.map .char ++ .surrogate t.first :: t.after

/-- Leading characters are split off one by one. -/
theorem split_append (cs : List Char) (rest : List CodePoint) :
    split (cs.map .char ++ rest) = (cs ++ (split rest).1, (split rest).2) := by
  induction cs with
  | nil => rfl
  | cons c cs ih => rw [List.map_cons, List.cons_append, split, ih, List.cons_append]

theorem ofPoints_points (t : LooseText) : ofPoints t.points = t := by
  cases t with
  | text s =>
    have hsplit := split_append s.toList []
    rw [List.append_nil] at hsplit
    simp [points, ofPoints, hsplit, split]
  | torn t => simp [points, ofPoints, split_append, split]

theorem points_ofPoints (ps : List CodePoint) : (ofPoints ps).points = ps := by
  have hsplit (ps : List CodePoint) : (split ps).1.map .char ++
      ((split ps).2.elim [] fun torn => .surrogate torn.1 :: torn.2) = ps := by
    induction ps with
    | nil => rfl
    | cons p ps ih =>
      cases p with
      | surrogate first => rfl
      | char c => rw [split, List.map_cons, List.cons_append, ih]
  rw [ofPoints]
  conv => rhs; rw [← hsplit ps]
  obtain ⟨cs, none | ⟨first, after⟩⟩ := split ps
  · simp [points]
  · simp [points]

end LooseText

/-- A name can be looked for exactly if all its code points are characters, and none of them is the zero. -/
theorem Charset.isSearchable_iff {name : LooseText} :
    IsSearchable name ↔ ∀ p ∈ name.points, ∃ c, p = .char c ∧ c ≠ '\x00' := by
  cases name with
  | text s =>
    simp only [IsSearchable, LooseText.points, List.forall_mem_map, CodePoint.char.injEq, exists_eq_left']
    exact ⟨fun h c hc heq => h (heq ▸ hc), fun h hzero => h _ hzero rfl⟩
  | torn t =>
    refine iff_of_false id fun h => ?_
    have hfirst : CodePoint.surrogate t.first ∈ (LooseText.torn t).points :=
      List.mem_append_right _ List.mem_cons_self
    obtain ⟨c, hc, -⟩ := h _ hfirst
    cases hc

end DeviceRelay
