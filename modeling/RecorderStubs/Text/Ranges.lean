/-! Sets of characters given by ascending, disjoint, inclusive ranges of code points. -/
namespace RecorderStubs

abbrev Ranges := List (Nat × Nat)

/-- Membership; the ranges ascend, so the search stops at the first range above the point. -/
def Ranges.mem : Ranges → Nat → Bool
  | [], _ => false
  | (low, high) :: rest, n => if n < low then false else n ≤ high || Ranges.mem rest n

end RecorderStubs
