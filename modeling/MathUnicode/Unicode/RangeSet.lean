/-!
# Sets of code points as range lists

A character property of the Unicode Character Database is a set of code points that
comes in long runs.  `RangeSet` stores such a set as a list of inclusive ranges, and
`RangeSet.contains` asks whether a code point lies in one of them.

The tables built on this type are data of the standard; their ranges are listed in
increasing order, which `contains` does not rely on.
-/

namespace MathUnicode.Unicode

/-- A set of code points, given as inclusive ranges `(lo, hi)`. -/
structure RangeSet where
  /-- The inclusive ranges whose union is the set. -/
  ranges : List (Nat × Nat)

namespace RangeSet

/-- Whether the code point `n` lies in one of the ranges. -/
def contains (s : RangeSet) (n : Nat) : Bool :=
  s.ranges.any fun r => r.1 ≤ n && n ≤ r.2

/-- Whether the character lies in the set. -/
def containsChar (s : RangeSet) (c : Char) : Bool :=
  s.contains c.toNat

theorem contains_iff (s : RangeSet) (n : Nat) :
    s.contains n = true ↔ ∃ r ∈ s.ranges, r.1 ≤ n ∧ n ≤ r.2 := by
  simp [contains]

end RangeSet

end MathUnicode.Unicode
