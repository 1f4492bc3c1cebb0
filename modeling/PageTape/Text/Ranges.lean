/-!
Sets of characters given by ranges of codes.
-/

namespace PageTape.Text

/-- A set of codes: ranges with both ends. -/
abbrev Ranges := List (Nat × Nat)

/-- The code lies in one of the ranges. -/
def Ranges.contains (ranges : Ranges) (n : Nat) : Bool :=
  ranges.any fun r => r.1 ≤ n && n ≤ r.2

end PageTape.Text
