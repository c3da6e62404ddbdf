import RowQuery.Double.Rounding
/-!
# Arithmetic on doubles

Each operation is the exact one followed by one rounding, with the usual rules
for infinities and for the sign of a zero.
-/

namespace RowQuery.Double

/-- An exact sum of zero is `-0` only when both terms are `-0`. -/
def add : Double → Double → Double
  | .finite x, .finite y =>
    let sum := x.units + y.units
    if sum = 0 then .finite ⟨x.negative && y.negative, FiniteDouble.zero.magnitude⟩
    else ofUnits (sum < 0) sum.natAbs 1
  | .infinity s, .infinity t => if s = t then .infinity s else .nan
  | .infinity s, .finite _ => .infinity s
  | .finite _, .infinity t => .infinity t
  | _, _ => .nan

def mul : Double → Double → Double
  | .finite x, .finite y =>
    ofUnits (x.negative != y.negative) (x.absUnits * y.absUnits) unitsPerOne
  | .infinity s, .infinity t => .infinity (s != t)
  | .infinity s, .finite y => if y.absUnits = 0 then .nan else .infinity (s != y.negative)
  | .finite x, .infinity t => if x.absUnits = 0 then .nan else .infinity (x.negative != t)
  | _, _ => .nan

def div : Double → Double → Double
  | .finite x, .finite y =>
    if y.absUnits = 0 then
      if x.absUnits = 0 then .nan else .infinity (x.negative != y.negative)
    else ofUnits (x.negative != y.negative) (x.absUnits * unitsPerOne) y.absUnits
  | .infinity s, .finite y => .infinity (s != y.negative)
  | .finite x, .infinity t => .finite ⟨x.negative != t, FiniteDouble.zero.magnitude⟩
  | _, _ => .nan

instance : Add Double := ⟨add⟩
instance : Mul Double := ⟨mul⟩
instance : Div Double := ⟨div⟩

end RowQuery.Double
