/-! Sets of code points given by the places where membership changes. -/
namespace StepFlow

/-- The code points at which membership flips, in increasing order: the first
one enters the set, the second leaves it, and so on. -/
structure CharSet where
  bounds : Array Nat

/-- A character is inside when an odd number of flips lie at or below it. -/
def CharSet.contains (set : CharSet) (c : Char) : Bool :=
  set.bounds.foldl (fun inside bound => if bound ≤ c.toNat then !inside else inside) false

end StepFlow
