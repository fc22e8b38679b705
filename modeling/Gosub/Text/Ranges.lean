/-! Sets of characters given by ranges of code points. -/

namespace Gosub.Text

/-- A set of characters as a list of ranges, each with its first and its last code point. -/
abbrev Ranges := List (Nat × Nat)

/-- Membership in one of the ranges, by code point. -/
def Ranges.contains (ranges : Ranges) (c : Char) : Bool :=
  ranges.any fun range => range.1 ≤ c.toNat && c.toNat ≤ range.2

end Gosub.Text
