import RowQuery.Json.Writer
/-!
# Output settings
-/

namespace RowQuery

/-- How records are written out. -/
structure Settings where
  /-- The byte between the fields of a table. -/
  delimiter : UInt8
  layout : Json.Layout
  /-- Stands for null and missing values in a table. -/
  nullText : String
deriving DecidableEq

namespace Settings

def standard : Settings := { delimiter := ','.toUInt8, layout := .compact, nullText := "" }

end Settings

end RowQuery
