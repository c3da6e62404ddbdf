import RowQuery.Double.Rounding
/-!
# Shortest decimals

`FiniteDouble.shortest` finds the decimal with the fewest digits that still rounds
to a given number. On the grid of decimals with a given count of digits only the
two neighbours of the number can be nearest to it, so it tries these for one digit,
two digits, and so on; the nearer of two that round back wins. Every decimal it
tries is read back with `Double.ofDecimal`, and if none did the exact expansion
would be taken, so the result always reads back as the number itself.
-/

namespace RowQuery

/-- The number `significand * 10 ^ exponent`. -/
structure Decimal where
  significand : Nat
  exponent : Int
deriving DecidableEq

/-- Which of two equally near decimals is taken. -/
inductive Decimal.Tie where
  /-- The larger one. -/
  | up
  /-- The one whose last digit is even. -/
  | even
deriving DecidableEq

namespace Decimal

/-- Count of decimal digits of a number below `10 ^ 20000`. `30102 / 100000` falls
so little short of `log 2` that the first guess is one digit short at most. -/
def digitCount (n : Nat) : Nat :=
  let guess := n.log2 * 30102 / 100000 + 1
  if 10 ^ guess ≤ n then guess + 1 else guess

/-- A multiple of `10 ^ exponent` with at most `count` digits before the rounding
that made it; the power of ten above the grid has one digit. -/
def onGrid (count significand : Nat) (exponent : Int) : Decimal :=
  if significand = 10 ^ count then ⟨1, exponent + count⟩ else ⟨significand, exponent⟩

def toDouble (negative : Bool) (d : Decimal) : Double :=
  Double.ofDecimal negative d.significand d.exponent

end Decimal

namespace FiniteDouble

/-- The full expansion: `2 ^ (-1074)` is `5 ^ 1074 * 10 ^ (-1074)`. -/
def expansion (x : FiniteDouble) : Decimal := ⟨x.absUnits * 5 ^ 1074, -1074⟩

def readsBack (x : FiniteDouble) (d : Decimal) : Bool :=
  d.toDouble x.negative == .finite x

/-- The first of two decimals that reads back as `x`. -/
def firstReadBack? (x : FiniteDouble) (first second : Decimal) : Option Decimal :=
  if x.readsBack first then some first
  else if x.readsBack second then some second
  else none

/-- The decimal of `count` digits that reads back as `x`, if there is one. -/
def decimalOfSize? (tie : Decimal.Tie) (x : FiniteDouble) (count : Nat) : Option Decimal :=
  let exact := x.expansion
  let dropped := Decimal.digitCount exact.significand - count
  let step := 10 ^ dropped
  let floor := exact.significand / step
  let rest := exact.significand % step
  let below := Decimal.onGrid count floor (exact.exponent + dropped)
  let above := Decimal.onGrid count (floor + 1) (exact.exponent + dropped)
  let preferAbove :=
    match compare (2 * rest) step, tie with
    | .lt, _ => false
    | .gt, _ => true
    | .eq, .up => true
    | .eq, .even => floor % 2 == 1
  if preferAbove then x.firstReadBack? above below else x.firstReadBack? below above

/-- The decimal with the fewest digits that reads back as `x`, and of those the nearest. -/
def shortest (tie : Decimal.Tie) (x : FiniteDouble) : Decimal :=
  if x.absUnits = 0 then ⟨0, 0⟩
  else ((List.range 17).findSome? fun n => x.decimalOfSize? tie (n + 1)).getD x.expansion

end FiniteDouble

end RowQuery
