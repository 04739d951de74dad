/-! # Sets of characters given by ranges

`inRanges table c` tests a character against a table of code point ranges, both ends included.
-/

namespace EventReport.Text

/-- The code point of `c` lies in one of the ranges. -/
def inRanges (table : List (Nat × Nat)) (c : Char) : Bool :=
  table.any fun range => range.1 ≤ c.toNat && c.toNat ≤ range.2

end EventReport.Text
