import RowQuery.Double.Basic
/-!
# JSON values

A number is an integer or a double. The entries of an object are kept in order.
-/

namespace RowQuery

/-- A JSON number. Integers are written without a fraction, doubles always with a
fraction or an exponent. -/
inductive Json.Number where
  | integer (n : Int)
  | double (x : FiniteDouble)
deriving DecidableEq

inductive Json where
  | null
  | bool (b : Bool)
  | number (n : Json.Number)
  | string (s : String)
  | array (items : List Json)
  | object (entries : List (String × Json))

end RowQuery
