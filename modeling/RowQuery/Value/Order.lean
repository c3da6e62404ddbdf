import RowQuery.Value.Basic
/-!
# Orders on values

Null comes first in both orders, and two numeric values compare as numbers in both.
They part on mixed pairs: `compareByKind`, which sorting and extrema use, puts every
numeric value before all other text and so is a total order up to equality, while
`compareAsOperands`, which the operators of a condition use, compares by text as soon
as one side is not numeric. `Key` is a normal form of loose equality, for looking up
the values equal to a given one.
-/

namespace RowQuery.Value

/-- Null, then numeric values by number, then other values by text. -/
def compareByKind : Value → Value → Ordering
  | null, null => .eq
  | null, _ => .lt
  | _, null => .gt
  | a, b =>
    match a.numeric?, b.numeric? with
    | some x, some y => x.order y
    | some _, none => .lt
    | none, some _ => .gt
    | none, none => compare a.comparisonText b.comparisonText

/-- Null, then any two values by number if both are numeric and by text otherwise.
This is not transitive over numeric and other text, so nothing is sorted by it. -/
def compareAsOperands : Value → Value → Ordering
  | null, null => .eq
  | null, _ => .lt
  | _, null => .gt
  | a, b =>
    match a.numeric?, b.numeric? with
    | some x, some y => x.order y
    | _, _ => compare a.comparisonText b.comparisonText

/-- Equality of values across kinds: `1`, `"1.0"` and `true` are all equal. -/
def looselyEqual (a b : Value) : Bool := a.compareByKind b == .eq

/-- What loosely equal values have in common. -/
inductive Key where
  | null
  /-- The rank of a number, which both zeros share. -/
  | number (rank : Int)
  | text (s : String)
deriving DecidableEq

def key : Value → Key
  | null => .null
  | a =>
    match a.numeric? with
    | some x => .number x.rank
    | none => .text a.comparisonText

end RowQuery.Value
