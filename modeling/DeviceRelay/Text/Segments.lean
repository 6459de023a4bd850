/-!
# Texts cut at a separator

A topic is a row of segments with a separator between them. The separator may be several characters
long; occurrences are taken from left to right and do not overlap, so the pieces are determined.

    topic ──split sep──▶ segments ──join sep──▶ topic

Main statement: `join_split`, cutting loses nothing. The last mark of a kind cuts a segment in two
(`cutLast?`), as a dash does between an application's name and its version.
-/

namespace DeviceRelay.Text

/-- What follows `sep` in `cs`, if `cs` starts with it. -/
def after? : List Char → List Char → Option (List Char)
  | [], cs => some cs
  | _ :: _, [] => none
  | a :: sep, c :: cs => if a = c then after? sep cs else none

theorem after?_eq_some {sep cs rest : List Char} (h : after? sep cs = some rest) :
    cs = sep ++ rest := by
  induction sep generalizing cs with
  | nil => simpa [after?] using h
  | cons a sep ih =>
    cases cs with
    | nil => simp [after?] at h
    | cons c cs =>
      simp only [after?] at h
      split at h
      · next hac => rw [hac, List.cons_append, ih h]
      · simp at h

/-- After a non-empty separator less is left. -/
theorem length_after?_lt {sep cs rest : List Char} (hsep : sep ≠ [])
    (h : after? sep cs = some rest) : rest.length < cs.length := by
  rw [after?_eq_some h, List.length_append]
  have := List.length_pos_iff.mpr hsep
  omega

/-- Cut `cs` at the separator; `piece` holds the characters of the piece under way, last first. An
empty separator cuts nowhere. -/
def splitFrom (sep piece cs : List Char) : List (List Char) :=
  match cs with
  | [] => [piece.reverse]
  | c :: rest =>
    if _hsep : sep = [] then [piece.reverse ++ c :: rest]
    else match _h : after? sep (c :: rest) with
      | some tail => piece.reverse :: splitFrom sep [] tail
      | none => splitFrom sep (c :: piece) rest
termination_by cs.length
decreasing_by
  · exact length_after?_lt _hsep _h
  · simp

/-- The pieces between the separators, first to last. -/
def splitChars (sep cs : List Char) : List (List Char) := splitFrom sep [] cs

/-- Pieces with the separator between them. -/
def joinChars (sep : List Char) : List (List Char) → List Char
  | [] => []
  | [piece] => piece
  | piece :: rest => piece ++ sep ++ joinChars sep rest

theorem splitFrom_ne_nil (sep piece cs : List Char) : splitFrom sep piece cs ≠ [] := by
  fun_induction splitFrom sep piece cs <;> simp_all

theorem joinChars_cons {sep piece : List Char} {rest : List (List Char)} (h : rest ≠ []) :
    joinChars sep (piece :: rest) = piece ++ sep ++ joinChars sep rest := by
  cases rest with
  | nil => exact absurd rfl h
  | cons _ _ => rfl

theorem join_splitFrom (sep piece cs : List Char) :
    joinChars sep (splitFrom sep piece cs) = piece.reverse ++ cs := by
  fun_induction splitFrom sep piece cs with
  | case1 piece => simp [joinChars]
  | case2 piece c rest => simp [joinChars]
  | case3 piece c rest hsep tail h ih =>
    rw [joinChars_cons (splitFrom_ne_nil sep [] tail), ih, after?_eq_some h]
    simp
  | case4 piece c rest hsep h ih => rw [ih]; simp

/-- Cutting a text and joining the pieces gives the text back. -/
theorem join_split (sep cs : List Char) : joinChars sep (splitChars sep cs) = cs := by
  simpa [splitChars] using join_splitFrom sep [] cs

/-- The pieces of a text between the separators. -/
def split (sep s : String) : List String := (splitChars sep.toList s.toList).map String.ofList

/-- What stands before and behind the last `mark`, if there is one. -/
def cutLast? (mark : Char) (cs : List Char) : Option (List Char × List Char) :=
  match cs.reverse.dropWhile (· ≠ mark) with
  | [] => none
  | _ :: front => some (front.reverse, (cs.reverse.takeWhile (· ≠ mark)).reverse)

end DeviceRelay.Text
