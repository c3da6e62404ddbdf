import RowQuery.Entries
import RowQuery.Value.Basic
/-!
# Records

A record maps column names to values and keeps the order in which the columns were
first set. A name is a key as it stands: a dot in it has no meaning.
-/

namespace RowQuery

/-- Columns with their values, in order. -/
structure Record where
  entries : List (String × Value)
deriving DecidableEq

namespace Record

def empty : Record := ⟨[]⟩

def columns (r : Record) : List String := r.entries.map (·.1)

def size (r : Record) : Nat := r.entries.length

def get? (r : Record) (column : String) : Option Value :=
  (r.entries.find? (·.1 == column)).map (·.2)

def contains (r : Record) (column : String) : Bool := r.entries.any (·.1 == column)

/-- The value of a column, null if the record has no such column. -/
def resolve (r : Record) (column : String) : Value := (r.get? column).getD .null

/-- Sets a column. A column that is there keeps its position; a new one comes last. -/
def set (r : Record) (column : String) (value : Value) : Record :=
  ⟨setEntry column value r.entries⟩

/-- Sets columns one after the other. -/
def setAll (r : Record) (entries : List (String × Value)) : Record :=
  ⟨setEntries r.entries entries⟩

def ofList (entries : List (String × Value)) : Record := empty.setAll entries

/-- The same columns in the same order with equal values. -/
def equal (r s : Record) : Bool :=
  r.columns == s.columns &&
    (r.entries.zip s.entries).all fun pair => pair.1.2.equal pair.2.2

theorem get?_set (r : Record) (column : String) (value : Value) (other : String) :
    (r.set column value).get? other = if column = other then some value else r.get? other := by
  rw [get?, set, find?_setEntry]
  split <;> rfl

end Record

/-- Records in order. -/
abbrev Dataset := List Record

end RowQuery
