import RowQuery.Record
import RowQuery.Value.Order
/-!
# Groups

The records of a dataset by the value of a column. Loosely equal values share a group,
groups come in the order in which they were first seen, and the records of a group in
the order of the dataset.
-/

namespace RowQuery

/-- Records with loosely equal values in a column. -/
structure Group where
  /-- The value of the first record. -/
  key : Value
  records : Dataset
deriving DecidableEq

/-- The groups of a dataset. -/
structure Grouping where
  groups : List Group

namespace Grouping

/-- Adds a record to the group of a value, which is made if there is none. -/
def addToGroup (v : Value) (r : Record) : List Group → List Group
  | [] => [⟨v, [r]⟩]
  | g :: groups =>
    if g.key.key = v.key then { g with records := g.records ++ [r] } :: groups
    else g :: addToGroup v r groups

def keys (g : Grouping) : List Value := g.groups.map (·.key)

def size (g : Grouping) : Nat := g.groups.length

/-- The group of the values equal to `v`. -/
def get? (g : Grouping) (v : Value) : Option Group := g.groups.find? (·.key.key = v.key)

end Grouping

def Dataset.groupBy (rs : Dataset) (column : String) : Grouping :=
  ⟨rs.foldl (fun groups r => Grouping.addToGroup (r.resolve column) r groups) []⟩

end RowQuery
