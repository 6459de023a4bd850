/-!
# Classes of characters as ranges

A class of characters beyond ASCII is a list of closed ranges of code points, ascending and apart.
The tables of the sibling modules are of this form.
-/

namespace DeviceRelay.Text

/-- Closed ranges of code points. -/
abbrev Ranges := List (Nat × Nat)

/-- Whether some range holds the code point. -/
def Ranges.has (ranges : Ranges) (code : Nat) : Bool :=
  ranges.any fun r => r.1 ≤ code && code ≤ r.2

/-- Each range is non-empty and lies wholly before the next, with a gap between. -/
def Ranges.ascending : Ranges → Bool
  | [] => true
  | [r] => r.1 ≤ r.2
  | r :: s :: rest => r.1 ≤ r.2 && r.2 + 1 < s.1 && Ranges.ascending (s :: rest)

/-- How many code points the ranges hold. -/
def Ranges.count (ranges : Ranges) : Nat := ranges.foldl (fun n r => n + (r.2 + 1 - r.1)) 0

end DeviceRelay.Text
