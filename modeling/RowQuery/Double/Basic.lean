/-!
# Double precision numbers

A `Double` is a binary64 datum: a number of the format, one of the two
infinities, or not a number. A number is held as a sign and a magnitude, where
magnitudes are counted upwards from zero: magnitude `n` stands for the `n`-th
number of the format that is not negative. So magnitudes compare as the numbers
do, and two numbers are the same one exactly when their `rank` is.

Every number of the format is a multiple of the least positive one,
`2 ^ (-1074)`; `magnitudeUnits` says which multiple. All arithmetic is then exact
arithmetic on naturals, followed by one rounding.
-/

namespace RowQuery

/-- Powers of naturals are those of the core library, also where a monoid gives others. -/
@[default_instance 20000]
instance (priority := 20000) powNat : Pow Nat Nat := instPowNat

namespace Double

/-- Numbers of the format that are not negative: 2047 binades of `2 ^ 52` numbers. -/
abbrev magnitudeCount : Nat := 0x7FF * 2 ^ 52

/-- Units of `2 ^ (-1074)` in one. -/
abbrev unitsPerOne : Nat := 2 ^ 1074

/-- The number of a magnitude, in units of `2 ^ (-1074)`. The first two binades
are spaced by one unit, and each later one by twice the spacing of the one before. -/
def magnitudeUnits (magnitude : Nat) : Nat :=
  let binade := magnitude / 2 ^ 52
  let fraction := magnitude % 2 ^ 52
  if binade = 0 then fraction else (2 ^ 52 + fraction) * 2 ^ (binade - 1)

end Double

/-- A finite number of the format. The two zeros differ in sign. -/
structure FiniteDouble where
  negative : Bool
  magnitude : Fin Double.magnitudeCount
deriving DecidableEq

namespace FiniteDouble

/-- The magnitude with its sign. It orders finite numbers as numbers, and is `0` for both zeros. -/
def rank (x : FiniteDouble) : Int :=
  if x.negative then -(x.magnitude.val : Int) else x.magnitude.val

/-- The absolute value in units of `2 ^ (-1074)`. -/
def absUnits (x : FiniteDouble) : Nat := Double.magnitudeUnits x.magnitude.val

/-- The number in units of `2 ^ (-1074)`. -/
def units (x : FiniteDouble) : Int :=
  if x.negative then -(x.absUnits : Int) else x.absUnits

def zero : FiniteDouble := ⟨false, ⟨0, by decide⟩⟩

def one : FiniteDouble := ⟨false, ⟨0x3FF * 2 ^ 52, by decide⟩⟩

/-- The number of a truth value. -/
def ofBool (b : Bool) : FiniteDouble := if b then one else zero

/-- Numerical order; the two zeros are equal. -/
def order (x y : FiniteDouble) : Ordering := compare x.rank y.rank

end FiniteDouble

/-- A binary64 datum. -/
inductive Double where
  | nan
  | infinity (negative : Bool)
  | finite (x : FiniteDouble)
deriving DecidableEq

namespace Double

def zero : Double := .finite .zero

/-- The number itself, unless it is infinite or not a number. -/
def finite? : Double → Option FiniteDouble
  | .finite x => some x
  | _ => none

@[simp] theorem finite?_finite (x : FiniteDouble) : (Double.finite x).finite? = some x := rfl

/-- Numerical equality: the two zeros are equal, and what is not a number equals nothing. -/
def equal : Double → Double → Bool
  | .finite x, .finite y => x.rank == y.rank
  | .infinity s, .infinity t => s == t
  | _, _ => false

/-! ## Encoding in 64 bits -/

/-- The bit that holds the sign. -/
abbrev signBit : Nat := 2 ^ 63

/-- The 64 bit word of a datum, the quiet pattern without payload for what is not a number. -/
def toBits : Double → Nat
  | .nan => 0x7FF8 * 2 ^ 48
  | .infinity negative => magnitudeCount + if negative then signBit else 0
  | .finite x => x.magnitude.val + if x.negative then signBit else 0

/-- The datum of a 64 bit word. Every payload gives the same `nan`. -/
def ofBits (word : Nat) : Double :=
  let magnitude := word % signBit
  let negative := word / signBit % 2 == 1
  if h : magnitude < magnitudeCount then .finite ⟨negative, ⟨magnitude, h⟩⟩
  else if magnitude = magnitudeCount then .infinity negative
  else .nan

end Double

end RowQuery
