import RowQuery.Record
import RowQuery.Text.Words
import RowQuery.Value.Order
/-!
# Joins

The current records, called local, are joined with foreign ones on equal values of a
column on either side. The foreign records are put into buckets by the key of their
column first, so that each local record finds its matches by one lookup.
-/

namespace RowQuery

/-- Records in buckets by the key of a column, each bucket in the order of the dataset. -/
structure JoinIndex where
  buckets : List (Value.Key × Dataset)

namespace JoinIndex

/-- Adds a record to the bucket of a key, which is made if there is none. -/
def addToBucket (key : Value.Key) (r : Record) :
    List (Value.Key × Dataset) → List (Value.Key × Dataset)
  | [] => [(key, [r])]
  | bucket :: buckets =>
    if bucket.1 = key then (key, bucket.2 ++ [r]) :: buckets
    else bucket :: addToBucket key r buckets

def build (rs : Dataset) (column : String) : JoinIndex :=
  ⟨rs.foldl (fun buckets r => addToBucket (r.resolve column).key r buckets) []⟩

/-- The records whose column has a value equal to `v`. -/
def lookup (index : JoinIndex) (v : Value) : Dataset :=
  ((index.buckets.find? (·.1 = v.key)).map (·.2)).getD []

def keyCount (index : JoinIndex) : Nat := index.buckets.length

end JoinIndex

inductive JoinKind where
  /-- Local records without a match are left out. -/
  | inner
  /-- Local records without a match are kept, with nulls in the foreign columns. -/
  | left
deriving DecidableEq

namespace JoinKind

/-- The word `left` in any letter case is a left join; any other text is an inner one. -/
def ofText (text : String) : JoinKind :=
  if Text.isKeyword "LEFT" (Text.trim text.toList) then .left else .inner

end JoinKind

/-- What local records are joined with, and how. -/
structure Join where
  foreign : Dataset
  localKey : String
  foreignKey : String
  kind : JoinKind
  /-- Put before the names of foreign columns, unless it is empty. -/
  alias? : Option String

namespace Join

/-- The name of a foreign column in the result. -/
def qualify (j : Join) (column : String) : String :=
  match j.alias? with
  | some name => if name = "" then column else name ++ "." ++ column
  | none => column

/-- The local record with the columns of a foreign one set in it. -/
def merge (j : Join) (l f : Record) : Record :=
  l.setAll (f.entries.map fun entry => (j.qualify entry.1, entry.2))

/-- The local record with the columns of the first foreign record, if any, set to null. -/
def padWithNulls (j : Join) (l : Record) : Record :=
  match j.foreign with
  | [] => l
  | f :: _ => l.setAll (f.columns.map fun column => (j.qualify column, .null))

/-- The results for a local record, given the foreign records that match it. -/
def rowsFor (j : Join) (l : Record) (found : Dataset) : Dataset :=
  if found = [] then
    match j.kind with
    | .inner => []
    | .left => [j.padWithNulls l]
  else found.map (j.merge l)

end Join

/-- All results, by local record, and for each by foreign record. -/
def Dataset.join (rs : Dataset) (j : Join) : Dataset :=
  let index := JoinIndex.build j.foreign j.foreignKey
  rs.flatMap fun l => j.rowsFor l (index.lookup (l.resolve j.localKey))

end RowQuery
