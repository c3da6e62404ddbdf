import RowQuery.Record
import RowQuery.Settings
/-!
# Comma separated values

The columns of the first record head the table, and every record has a row under them,
where a null or a missing column is written as the settings say. A field is quoted only
if it holds the delimiter, a quote or a line break, so that the rows can be read back;
and a row that would be empty is written as a pair of quotes, so that it is seen. All
of this goes by bytes, since a delimiter is any byte.

Trusted: `Csv.field` and `Csv.row` stand for the library that the program writes tables with. When
it quotes a field, how it writes a quote in one, and that it marks an empty row are taken from it
and are not proved of it. The columns, the texts in the cells and the order of the rows are the work
of the program (`Dataset.csvRows`).
-/

namespace RowQuery

/-- The bytes of a text in UTF-8. -/
def bytesOf (s : String) : List UInt8 := s.toUTF8.data.toList

namespace Csv

def quote : UInt8 := '"'.toUInt8

def lineFeed : UInt8 := '\n'.toUInt8

def carriageReturn : UInt8 := '\r'.toUInt8

/-- A field that would not be read back without quotes. -/
def needsQuotes (delimiter : UInt8) (field : List UInt8) : Bool :=
  field.any fun b => b == delimiter || b == quote || b == lineFeed || b == carriageReturn

/-- A field as it is written; a quote inside quotes is doubled. -/
def field (delimiter : UInt8) (bytes : List UInt8) : List UInt8 :=
  if needsQuotes delimiter bytes then
    quote :: bytes.flatMap (fun b => if b = quote then [quote, quote] else [b]) ++ [quote]
  else bytes

/-- A row with its line break. -/
def row (delimiter : UInt8) (fields : List (List UInt8)) : List UInt8 :=
  let line := [delimiter].intercalate (fields.map (field delimiter))
  (if line = [] then [quote, quote] else line) ++ [lineFeed]

/-- The text of a value in a table. -/
def cellText (settings : Settings) : Value → String
  | .null => settings.nullText
  | v => v.display

end Csv

namespace Dataset

/-- The rows of a dataset that is not empty, the column names in front. -/
def csvRows (settings : Settings) (header : List String) (rs : Dataset) : List (List String) :=
  header :: rs.map fun r => header.map fun column => Csv.cellText settings (r.resolve column)

/-- The table of a dataset; there is none of an empty dataset. -/
def csv? (settings : Settings) (rs : Dataset) : Option (List UInt8) :=
  match rs with
  | [] => none
  | first :: _ =>
    some ((csvRows settings first.columns rs).flatMap fun cells =>
      Csv.row settings.delimiter (cells.map bytesOf))

end Dataset

end RowQuery
