import RowQuery.Condition.Basic
import RowQuery.Record
import RowQuery.Value.Order
/-!
# When a record satisfies a condition

The results of the comparisons are joined from left to right, the n-th connective
between the n-th result and the next. A missing connective counts as AND, and a
condition without comparisons is satisfied by no record.
-/

namespace RowQuery

/-- What an operator says of its operands, given how they compare. -/
def Operator.allows : Operator → Ordering → Bool
  | equal, order => order == .eq
  | notEqual, order => order != .eq
  | less, order => order == .lt
  | lessEqual, order => order != .gt
  | greater, order => order == .gt
  | greaterEqual, order => order != .lt

def Operator.holds (op : Operator) (left right : Value) : Bool :=
  op.allows (left.compareAsOperands right)

/-- Compares the value of the column, null if it is missing, with the literal. -/
def Comparison.holds (c : Comparison) (r : Record) : Bool :=
  c.operator.holds (r.resolve c.column) c.value

def Connective.join : Connective → Bool → Bool → Bool
  | and, a, b => a && b
  | or, a, b => a || b

/-- Joins further results to the one at hand. -/
def joinResults (result : Bool) : List Bool → List Connective → Bool
  | [], _ => result
  | next :: results, connectives =>
    joinResults ((connectives.headD .and).join result next) results connectives.tail

def Condition.holds (c : Condition) (r : Record) : Bool :=
  match c.comparisons.map (·.holds r) with
  | [] => false
  | first :: results => joinResults first results c.connectives

end RowQuery
