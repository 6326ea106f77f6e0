/-!
# Classes of characters given by ranges of code points

A class of the Unicode standard (letters, numerals, ...) is a set of code points that is written
down most briefly as a sorted list of closed ranges. This module holds the membership test; each
class has a table module of its own beside it.

The standard grows. Names are made of the letters and numerals of version 16, while uppercase forms
and the pictures of characters follow version 17; each table says which version it states.
-/

namespace TypedHub.Unicode

/-- Whether the code point `n` lies in one of the closed ranges. -/
def inRanges (n : Nat) (ranges : List (Nat × Nat)) : Bool :=
  ranges.any fun range => range.1 ≤ n && n ≤ range.2

theorem inRanges_iff {n : Nat} {ranges : List (Nat × Nat)} :
    inRanges n ranges = true ↔ ∃ range ∈ ranges, range.1 ≤ n ∧ n ≤ range.2 := by
  simp [inRanges]

/-- Whether the ranges are in ascending order with a gap between any two of them. -/
def ascending : List (Nat × Nat) → Bool
  | [] => true
  | [range] => range.1 ≤ range.2
  | range :: next :: rest =>
    range.1 ≤ range.2 && range.2 + 1 < next.1 && ascending (next :: rest)

/-- The number of code points in the ranges. -/
def count : List (Nat × Nat) → Nat
  | [] => 0
  | range :: rest => range.2 + 1 - range.1 + count rest

end TypedHub.Unicode
