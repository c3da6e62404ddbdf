import RowQuery.Value.Basic
/-!
# Conditions

A condition is a flat sequence of terms. There is no nesting and no precedence:
connectives join the results of the comparisons from left to right.
-/

namespace RowQuery

/-- Comparison operators. -/
inductive Operator where
  | equal
  | notEqual
  | less
  | lessEqual
  | greater
  | greaterEqual
deriving DecidableEq

namespace Operator

def symbol : Operator → String
  | equal => "="
  | notEqual => "!="
  | less => "<"
  | lessEqual => "<="
  | greater => ">"
  | greaterEqual => ">="

def ofSymbol? (symbol : String) : Option Operator :=
  [equal, notEqual, less, lessEqual, greater, greaterEqual].find? (·.symbol == symbol)

end Operator

/-- Words that join two comparisons. -/
inductive Connective where
  | and
  | or
deriving DecidableEq

namespace Connective

def word : Connective → String
  | and => "AND"
  | or => "OR"

end Connective

/-- A column compared with a literal. -/
structure Comparison where
  column : String
  operator : Operator
  value : Value
deriving DecidableEq

/-- One element of a condition. -/
inductive Term where
  | comparison (c : Comparison)
  | connective (k : Connective)
  /-- Text between connectives that is no comparison. It takes no part in evaluation. -/
  | invalid (text : String)
deriving DecidableEq

namespace Term

def comparison? : Term → Option Comparison
  | comparison c => some c
  | _ => none

def connective? : Term → Option Connective
  | connective k => some k
  | _ => none

def invalid? : Term → Option String
  | invalid text => some text
  | _ => none

end Term

structure Condition where
  terms : List Term
deriving DecidableEq

namespace Condition

def comparisons (c : Condition) : List Comparison := c.terms.filterMap Term.comparison?

def connectives (c : Condition) : List Connective := c.terms.filterMap Term.connective?

def invalidTexts (c : Condition) : List String := c.terms.filterMap Term.invalid?

end Condition

end RowQuery
