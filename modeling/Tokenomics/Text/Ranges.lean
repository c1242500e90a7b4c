/-!
# Sets of characters

Sets of characters that standards give as tables: ranges of code points, each by its first and its
last one.
-/

namespace Tokenomics.Text

/-- Whether a character lies in one of the ranges. -/
def inRanges (ranges : Array (Nat × Nat)) (c : Char) : Bool :=
  ranges.any fun r ↦ r.1 ≤ c.toNat && c.toNat ≤ r.2

end Tokenomics.Text
