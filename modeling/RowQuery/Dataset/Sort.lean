import RowQuery.Record
import RowQuery.Text.Words
import RowQuery.Value.Order
/-!
# Sorting

Records are sorted by one column with a stable sort. Descending order reverses the
comparison and not the result, so records with equal values keep their order in both
directions.
-/

namespace RowQuery

inductive SortDirection where
  | ascending
  | descending
deriving DecidableEq

namespace SortDirection

/-- The word `desc` in any letter case sorts descending; any other text sorts ascending. -/
def ofText (text : String) : SortDirection :=
  if Text.isKeyword "DESC" (Text.trim text.toList) then .descending else .ascending

/-- Orders in this direction, given how two values compare. -/
def orient : SortDirection → Ordering → Ordering
  | ascending, order => order
  | descending, order => order.swap

end SortDirection

/-- How two records compare by a column. -/
def Record.compareBy (column : String) (direction : SortDirection) (r s : Record) : Ordering :=
  direction.orient ((r.resolve column).compareByKind (s.resolve column))

def Dataset.sortBy (rs : Dataset) (column : String) (direction : SortDirection) : Dataset :=
  rs.mergeSort fun r s => r.compareBy column direction s != .gt

end RowQuery
