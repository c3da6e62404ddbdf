import RowQuery.Printout
import RowQuery.Record
/-!
# Tables

A dataset drawn as a table: a line of headers, a separator, a line for each record and
the number of records. Every column is as wide as its widest text in bytes, and at
least three, while texts are padded to that width in characters; so lines are equally
long in characters, whatever the texts hold. A column can be too wide to be drawn: the
formatter has to make the separator two characters wider than the texts.
-/

namespace RowQuery

/-- Adds a name to a list that does not have it. -/
def addName (names : List String) (name : String) : List String :=
  if names.contains name then names else names ++ [name]

namespace Dataset

/-- The columns of all records, in the order in which they were first seen. -/
def headers (rs : Dataset) : List String := (rs.flatMap Record.columns).foldl addName []

end Dataset

namespace Table

/-- What stands in a record's cell; a cell without a value is empty. -/
def cell (header : String) (r : Record) : String := ((r.get? header).map Value.display).getD ""

/-- The width of a column. -/
def width (rs : Dataset) (header : String) : Nat :=
  (rs.map fun r => (cell header r).utf8ByteSize).foldl max (max 3 header.utf8ByteSize)

/-- A text with as many fillers behind it as it lacks to a width. -/
def padded (filler : Char) (width : Nat) (text : String) : String :=
  text ++ String.ofList (List.replicate (width - text.length) filler)

/-- A line of texts, each with the width of its column. -/
def line (cells : List (String × Nat)) : List Piece :=
  .plain "|" :: cells.map (fun (text, width) => { width, text := " " ++ padded ' ' width text ++ " |" }) ++
    [.plain "\n"]

/-- The line under the headers. -/
def separator (widths : List Nat) : List Piece :=
  .plain "+" :: widths.map (fun width => { width := width + 2, text := padded '-' (width + 2) "" ++ "+" }) ++
    [.plain "\n"]

end Table

/-- The number of rows, as it stands under a table. -/
def rowCount (n : Nat) : String := "(" ++ toString n ++ " rows)\n"

/-- The pieces of a table, with the number of records behind it. -/
def Table.pieces (rs : Dataset) : List Piece :=
  let headers := Dataset.headers rs
  let widths := headers.map (width rs)
  line (headers.zip widths) ++ separator widths ++
    rs.flatMap (fun r => line ((headers.map fun header => cell header r).zip widths)) ++ [.plain (rowCount rs.length)]

/-- Prints a dataset as a table. -/
def Dataset.table (rs : Dataset) : Printout := .ofPieces (Table.pieces rs)

end RowQuery
