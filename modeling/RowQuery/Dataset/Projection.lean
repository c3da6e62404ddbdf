import RowQuery.Record
/-!
# Projection

Records cut down to some of their columns.
-/

namespace RowQuery

/-- Which columns are kept. -/
inductive Projection where
  | all
  | columns (names : List String)
deriving DecidableEq

namespace Projection

/-- The list of just `*` keeps all columns. In any other list `*` is a name like the rest. -/
def ofColumns (names : List String) : Projection :=
  if names = ["*"] then .all else .columns names

end Projection

/-- The record's own columns that are among the names, in the record's order. -/
def Record.restrict (r : Record) (names : List String) : Record :=
  ⟨r.entries.filter fun entry => names.contains entry.1⟩

namespace Record

/-- A column that is kept has the value it had. -/
theorem resolve_restrict (r : Record) {names : List String} {column : String} (h : column ∈ names) :
    (r.restrict names).resolve column = r.resolve column := by
  have hfound : (fun entry : String × Value => decide (names.contains entry.1 = true ∧ (entry.1 == column) = true)) =
      fun entry => entry.1 == column := by
    funext entry
    by_cases hentry : entry.1 = column
    · simp [hentry, h]
    · simp [hentry]
  rw [resolve, resolve, get?, get?, restrict, List.find?_filter, hfound]

end Record

def Dataset.project (rs : Dataset) : Projection → Dataset
  | .all => rs
  | .columns names => rs.map (·.restrict names)

end RowQuery
