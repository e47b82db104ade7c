/-!
# Character ranges

A property of characters that a standard fixes by listing is kept as a table of inclusive code
point ranges. This module holds the membership test; each table has a module of its own.
-/

namespace MarkupLog.Text

abbrev Ranges := List (Nat × Nat)

def Ranges.has (ranges : Ranges) (code : Nat) : Bool :=
  ranges.any fun r => r.1 ≤ code && code ≤ r.2

theorem Ranges.has_iff (ranges : Ranges) (code : Nat) :
    ranges.has code = true ↔ ∃ r ∈ ranges, r.1 ≤ code ∧ code ≤ r.2 := by
  simp [Ranges.has]

def Ranges.start? (ranges : Ranges) (code : Nat) : Option Nat :=
  (ranges.find? fun r => r.1 ≤ code && code ≤ r.2).map Prod.fst

end MarkupLog.Text
