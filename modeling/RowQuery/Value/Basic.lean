import RowQuery.Double.Plain
import RowQuery.Numeral
/-!
# Values

What a record holds in a column. A value is numeric when it can be read as a
finite number: numbers and truth values can, and so can text that spells a number.
Two texts of a value are in use: the one it is compared by, which is empty for
null and a digit for a truth value, and the one that is displayed.
-/

namespace RowQuery

inductive Value where
  | null
  | number (x : Double)
  | text (s : String)
  | bool (b : Bool)
deriving DecidableEq

namespace Value

def isNull : Value → Bool
  | null => true
  | _ => false

def text? : Value → Option String
  | text s => some s
  | _ => none

def bool? : Value → Option Bool
  | bool b => some b
  | _ => none

/-- The number a value can be read as. -/
def numeric? : Value → Option FiniteDouble
  | null => none
  | number x => x.finite?
  | text s => parseNumber s.toList
  | bool b => some (.ofBool b)

/-- The text a value is compared by. -/
def comparisonText : Value → String
  | null => ""
  | number x => String.ofList x.plain
  | text s => s
  | bool b => if b then "1" else "0"

/-- The text a value is shown as. -/
def display : Value → String
  | null => "null"
  | number x => String.ofList x.plain
  | text s => s
  | bool b => if b then "true" else "false"

/-- The value of text that carries no type: a number if it spells one. -/
def ofUntyped (s : String) : Value :=
  match parseNumber s.toList with
  | some x => number (.finite x)
  | none => text s

/-- Same kind and content, where numbers are equal as numbers. -/
def equal : Value → Value → Bool
  | null, null => true
  | number x, number y => x.equal y
  | text s, text t => s == t
  | bool a, bool b => a == b
  | _, _ => false

end Value

end RowQuery
