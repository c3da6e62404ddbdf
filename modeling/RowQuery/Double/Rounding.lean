import RowQuery.Double.Basic
/-!
# Rounding to the nearest double

`ofRatio` gives the double nearest to a quotient of naturals, and of two equally
near ones the one whose last bit is zero. Everything that makes a number goes
through it: literals, counts, sums, quotients.
-/

namespace RowQuery.Double

/-- The natural nearest to `num / den`; a half goes to the even neighbour. -/
def roundHalfEven (num den : Nat) : Nat :=
  let floor := num / den
  let rest := num % den
  if 2 * rest < den then floor
  else if den < 2 * rest then floor + 1
  else if floor % 2 = 0 then floor else floor + 1

/-- The magnitude nearest to `num / den` units. The spacing `2 ^ shift` of the
numbers around the quotient leaves 53 significant bits; a rounding up to the next
power of two carries into the next binade by itself. -/
def nearestMagnitude (num den : Nat) : Nat :=
  let shift := (num / den).log2 - 52
  shift * 2 ^ 52 + roundHalfEven num (den * 2 ^ shift)

/-- The datum of a sign and a magnitude; beyond the last number lies infinity. -/
def ofMagnitude (negative : Bool) (magnitude : Nat) : Double :=
  if h : magnitude < magnitudeCount then .finite ⟨negative, ⟨magnitude, h⟩⟩ else .infinity negative

/-- The double nearest to `num / den` units, with the given sign. -/
def ofUnits (negative : Bool) (num den : Nat) : Double :=
  ofMagnitude negative (nearestMagnitude num den)

/-- The double nearest to `num / den`, with the given sign. -/
def ofRatio (negative : Bool) (num den : Nat) : Double :=
  ofUnits negative (num * unitsPerOne) den

def ofNat (n : Nat) : Double := ofRatio false n 1

/-- The zero of a sign. -/
def signedZero (negative : Bool) : Double := .finite ⟨negative, FiniteDouble.zero.magnitude⟩

/-- The double nearest to `significand * 10 ^ exponent`. The tests in front answer
without the power: from `10 ^ 309` on everything rounds to infinity, and below
`2 ^ (-1076)`, a quarter of the least positive number, everything rounds to zero. -/
def ofDecimal (negative : Bool) (significand : Nat) (exponent : Int) : Double :=
  if significand = 0 then signedZero negative
  else if 309 ≤ exponent then .infinity negative
  else if significand.log2 + 3 * exponent ≤ -1077 then signedZero negative
  else ofRatio negative (significand * 10 ^ exponent.toNat) (10 ^ (-exponent).toNat)

end RowQuery.Double
