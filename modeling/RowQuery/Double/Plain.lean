import RowQuery.Double.Shortest
/-!
# Numbers as plain text

A number is written without exponent, however large or small: an integer below
`9 * 10 ^ 15` by its digits, any other number by its shortest decimal.
-/

namespace RowQuery

/-- Decimal digits, most significant first. -/
def digitsOf (n : Nat) : List Char := Nat.toDigits 10 n

/-- The sign of a negative number in front of its text. -/
def withSign (negative : Bool) (text : List Char) : List Char :=
  if negative then '-' :: text else text

def integerText (n : Int) : List Char := withSign (n < 0) (digitsOf n.natAbs)

namespace Decimal

/-- The digits of the significand. -/
def digits (d : Decimal) : List Char := digitsOf d.significand

/-- Digits before the decimal point when the decimal is written out; zero or less
when it starts behind the point. -/
def pointPosition (d : Decimal) : Int := d.digits.length + d.exponent

/-- The decimal written out, with a point only if it has a fraction. -/
def plain (d : Decimal) : List Char :=
  let places := (-d.exponent).toNat
  let digits := d.digits ++ List.replicate d.exponent.toNat '0'
  if places = 0 then digits
  else if places < digits.length then
    digits.take (digits.length - places) ++ '.' :: digits.drop (digits.length - places)
  else '0' :: '.' :: List.replicate (places - digits.length) '0' ++ digits

end Decimal

namespace FiniteDouble

/-- The limit below which integral numbers are written as integers. -/
abbrev integerLimit : Nat := 9 * 10 ^ 15

/-- The number as an integer, when it is integral and below the limit. Both zeros give `0`. -/
def integer? (x : FiniteDouble) : Option Int :=
  let whole := x.absUnits / Double.unitsPerOne
  if x.absUnits % Double.unitsPerOne = 0 ∧ whole < integerLimit then
    some (if x.negative then -(whole : Int) else whole)
  else none

/-- The plain text of a finite number; of two shortest decimals equally near the larger is written. -/
def plain (x : FiniteDouble) : List Char :=
  match x.integer? with
  | some n => integerText n
  | none => withSign x.negative (x.shortest .up).plain

end FiniteDouble

/-- The plain text of any datum. -/
def Double.plain : Double → List Char
  | .nan => "NaN".toList
  | .infinity negative => withSign negative "inf".toList
  | .finite x => x.plain

end RowQuery
