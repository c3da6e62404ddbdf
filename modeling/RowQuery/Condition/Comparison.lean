import RowQuery.Condition.Basic
import RowQuery.Condition.Quoting
import RowQuery.Text.Alphanumeric
/-!
# Reading a comparison

A comparison is a column name, an operator and a literal, with white space allowed
around each. A bare literal runs to the end of the text and holds no quote; a quoted
one must end there.
-/

namespace RowQuery

/-- The characters of a column name in a condition. -/
def isColumnChar (c : Char) : Bool := Text.isAlphanumeric c || c == '_' || c == '.'

/-- Reads the longest operator in front, so that `>=` is not `>` before an equals sign. -/
def readOperator? : List Char → Option (Operator × List Char)
  | '>' :: '=' :: cs => some (.greaterEqual, cs)
  | '<' :: '=' :: cs => some (.lessEqual, cs)
  | '!' :: '=' :: cs => some (.notEqual, cs)
  | '=' :: '=' :: _ => none
  | '>' :: cs => some (.greater, cs)
  | '<' :: cs => some (.less, cs)
  | '=' :: cs => some (.equal, cs)
  | _ => none

/-- The value of a literal without quotes: a number or a truth value if it spells one. -/
def bareLiteral (cs : List Char) : Value :=
  match parseNumber cs with
  | some x => .number (.finite x)
  | none =>
    if Text.isKeyword "TRUE" cs then .bool true
    else if Text.isKeyword "FALSE" cs then .bool false
    else .text (String.ofList cs)

/-- Reads a literal that is the whole text. -/
def parseLiteral? : List Char → Option Value
  | [] => none
  | c :: cs =>
    if isQuote c then
      match readLiteral c cs with
      | some (text, []) => some (.text (String.ofList text))
      | _ => none
    else if (c :: cs).any isQuote then none
    else some (bareLiteral (c :: cs))

/-- Reads a comparison that is the whole text, white space around it aside. -/
def Comparison.parse? (text : List Char) : Option Comparison :=
  let cs := Text.trim text
  let column := cs.takeWhile isColumnChar
  if column = [] then none
  else do
    let (operator, cs) ← readOperator? (Text.trimStart (cs.dropWhile isColumnChar))
    let value ← parseLiteral? (Text.trimStart cs)
    return { column := String.ofList column, operator, value }

end RowQuery
