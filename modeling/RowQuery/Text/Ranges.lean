/-!
# Ranges of code points

A class of characters is given by ascending ranges of code points.
-/

namespace RowQuery.Text

/-- Some range of the table, ends included, holds the code point. -/
def inRanges (table : List (Nat × Nat)) (code : Nat) : Bool :=
  table.any fun range => range.1 ≤ code && code ≤ range.2

end RowQuery.Text
