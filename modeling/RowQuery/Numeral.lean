import RowQuery.Double.Rounding
import RowQuery.Text.Blank
/-!
# Decimal numerals

The form of a number in text: an optional sign, digits with an optional fraction,
an optional exponent, in ASCII, and nothing else. Infinities and words have no
numeral.
-/

namespace RowQuery

/-- The parts of a decimal numeral. -/
structure Numeral where
  negative : Bool
  whole : List Char
  fraction : List Char
  exponent : Int
deriving DecidableEq

namespace Numeral

/-- A sign in front, and what follows it. -/
def splitSign : List Char → Bool × List Char
  | '+' :: cs => (false, cs)
  | '-' :: cs => (true, cs)
  | cs => (false, cs)

/-- The number that digits stand for. -/
def natural (digits : List Char) : Nat := Nat.ofDigitChars 10 digits 0

/-- The fraction digits behind a point, and what follows them. -/
def splitFraction : List Char → List Char × List Char
  | '.' :: cs => (cs.takeWhile Char.isDigit, cs.dropWhile Char.isDigit)
  | cs => ([], cs)

/-- The exponent that ends a numeral: none at all, or a mark, an optional sign and digits. -/
def exponent? : List Char → Option Int
  | [] => some 0
  | mark :: cs =>
    let (negative, digits) := splitSign cs
    if (mark = 'e' ∨ mark = 'E') ∧ digits ≠ [] ∧ digits.all Char.isDigit then
      some (if negative then -(natural digits : Int) else natural digits)
    else none

/-- Reads a numeral that is the whole text. -/
def parse? (cs : List Char) : Option Numeral :=
  let (negative, body) := splitSign cs
  let whole := body.takeWhile Char.isDigit
  let (fraction, rest) := splitFraction (body.dropWhile Char.isDigit)
  if whole = [] ∧ fraction = [] then none
  else (exponent? rest).map fun exponent => { negative, whole, fraction, exponent }

/-- The double nearest to the number a numeral stands for. -/
def toDouble (n : Numeral) : Double :=
  Double.ofDecimal n.negative (natural (n.whole ++ n.fraction)) (n.exponent - n.fraction.length)

end Numeral

/-- The finite number that a text spells, white space around it aside. -/
def parseNumber (text : List Char) : Option FiniteDouble :=
  (Numeral.parse? (Text.trim text)).bind (·.toDouble.finite?)

end RowQuery
