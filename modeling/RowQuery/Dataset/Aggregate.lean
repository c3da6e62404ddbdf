import RowQuery.Double.Arithmetic
import RowQuery.Record
import RowQuery.Text.Words
import RowQuery.Value.Order
/-!
# Aggregates

A function over the values of a column in all records, where a record without the
column counts as null. Sums are taken from left to right, each addition rounded, and
values that are not numeric add nothing; an average divides by the number of records.
-/

namespace RowQuery

inductive AggregateFunction where
  | count
  | sum
  | average
  | minimum
  | maximum
deriving DecidableEq

namespace AggregateFunction

def name : AggregateFunction → String
  | count => "COUNT"
  | sum => "SUM"
  | average => "AVG"
  | minimum => "MIN"
  | maximum => "MAX"

/-- The function of a name in any letter case, white space around it aside. -/
def ofName? (name : String) : Option AggregateFunction :=
  [count, sum, average, minimum, maximum].find? fun f =>
    Text.isKeyword f.name (Text.trim name.toList)

end AggregateFunction

/-- What is kept of the values seen so far. -/
structure Accumulator where
  count : Nat
  /-- Sum of the numeric values. -/
  sum : Double
  /-- The first of the least values. -/
  least? : Option Value
  /-- The first of the greatest values. -/
  greatest? : Option Value

namespace Accumulator

def empty : Accumulator := { count := 0, sum := .zero, least? := none, greatest? := none }

/-- The value at hand, unless `v` beats it: it is the first, or compares to it as `order`. -/
def better (order : Ordering) (current? : Option Value) (v : Value) : Value :=
  match current? with
  | none => v
  | some current => if v.compareByKind current = order then v else current

def add (a : Accumulator) (v : Value) : Accumulator where
  count := a.count + 1
  sum := match v.numeric? with
    | some x => a.sum + .finite x
    | none => a.sum
  least? := some (better .lt a.least? v)
  greatest? := some (better .gt a.greatest? v)

def addAll (a : Accumulator) (vs : List Value) : Accumulator := vs.foldl add a

def result (a : Accumulator) : AggregateFunction → Value
  | .count => .number (.ofNat a.count)
  | .sum => .number a.sum
  | .average => .number (if a.count = 0 then .zero else a.sum / .ofNat a.count)
  | .minimum => a.least?.getD .null
  | .maximum => a.greatest?.getD .null

end Accumulator

namespace Dataset

/-- The aggregate of a column; null if no function has the name. -/
def aggregateColumn (rs : Dataset) (column function : String) : Value :=
  match AggregateFunction.ofName? function with
  | some f => (Accumulator.empty.addAll (rs.map (·.resolve column))).result f
  | none => .null

/-- The aggregates of a list of columns with function names. A column that is asked for
again takes the place and the value of the last request. -/
def aggregate (rs : Dataset) (fields : List (String × String)) : List (String × Value) :=
  fields.foldl (fun results (column, function) =>
    results.filter (·.1 != column) ++ [(column, rs.aggregateColumn column function)]) []

end Dataset

end RowQuery
