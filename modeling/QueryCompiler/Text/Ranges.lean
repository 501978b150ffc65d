/-!
# Sets of characters given by ranges of code points
-/

namespace QueryCompiler.Text

/-- Inclusive ranges of code points, in increasing order. -/
abbrev Ranges := Array (Nat × Nat)

/-- Whether the code point of `c` lies in one of the ranges. -/
def Ranges.contains (ranges : Ranges) (c : Char) : Bool :=
  ranges.any fun r => r.1 ≤ c.toNat && c.toNat ≤ r.2

end QueryCompiler.Text
