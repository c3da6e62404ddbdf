import RowQuery.Dataset.Grouping
import RowQuery.Dataset.Page
import RowQuery.Double.Rounding
import RowQuery.Json.Reader
import RowQuery.Json.Writer
/-!
# Records as JSON

A dataset is read from an array of objects. Scalars become values, and an array or
object inside a record is kept as text in the compact layout. Written out, integral
numbers below `9 * 10 ^ 15` are integers and numbers that are not finite are null.
-/

namespace RowQuery

def Json.Number.toDouble : Json.Number → Double
  | integer n => Double.ofRatio (n < 0) n.natAbs 1
  | double x => .finite x

/-- Why JSON is not a dataset. -/
inductive InputError where
  | notAnArray
  | notAnObject (found : Json)

def InputError.message : InputError → String
  | notAnArray => "Expected a JSON array of objects"
  | notAnObject found =>
    "Expected a JSON object for a record, found " ++ found.text .compact

/-! ## Reading -/

def Value.ofJson : Json → Value
  | .null => .null
  | .bool b => .bool b
  | .number n => .number n.toDouble
  | .string s => .text s
  | .array items => .text ((Json.array items).text .compact)
  | .object entries => .text ((Json.object entries).text .compact)

def Record.ofJson : Json → Except InputError Record
  | .object entries => .ok (.ofList (entries.map fun entry => (entry.1, Value.ofJson entry.2)))
  | found => .error (.notAnObject found)

def Dataset.ofJson : Json → Except InputError Dataset
  | .array items => items.mapM Record.ofJson
  | _ => .error .notAnArray

/-! ## Writing -/

def Value.toJson : Value → Json
  | .null => .null
  | .bool b => .bool b
  | .text s => .string s
  | .number (.finite x) =>
    match x.integer? with
    | some n => .number (.integer n)
    | none => .number (.double x)
  | .number _ => .null

def entriesToJson (entries : List (String × Value)) : Json :=
  .object (entries.map fun entry => (entry.1, entry.2.toJson))

def Record.toJson (r : Record) : Json := entriesToJson r.entries

def Dataset.toJson (rs : Dataset) : Json := .array (rs.map Record.toJson)

/-- An object with the groups under the texts of their keys. -/
def Grouping.toJson (g : Grouping) : Json :=
  .object (g.groups.map fun group => (group.key.comparisonText, Dataset.toJson group.records))

def Page.toJson (p : Page) : Json :=
  .object
    [("data", Dataset.toJson p.data),
      ("total", .number (.integer p.total)),
      ("pages", .number (.integer p.pages))]

end RowQuery
