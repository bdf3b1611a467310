set_option autoImplicit false

/-!
Sets of code points written as sorted arrays of inclusive ranges, the form in which the Unicode
character database publishes its properties. Membership is a scan over the ranges.
-/

namespace SchemaTypes.Unicode

/-- A set of code points given by inclusive ranges `(first, last)`. -/
structure RangeSet where
  ranges : Array (Nat × Nat)

namespace RangeSet

def contains (s : RangeSet) (n : Nat) : Bool :=
  s.ranges.any fun r => r.1 ≤ n && n ≤ r.2

theorem contains_iff (s : RangeSet) (n : Nat) :
    s.contains n = true ↔ ∃ r ∈ s.ranges, r.1 ≤ n ∧ n ≤ r.2 := by
  simp only [contains, Array.any_eq_true', Bool.and_eq_true, decide_eq_true_eq]

end RangeSet

end SchemaTypes.Unicode
