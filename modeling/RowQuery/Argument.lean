import RowQuery.Text.Quoted
import RowQuery.Text.Split
import RowQuery.Value.Basic
/-!
# Typed arguments

What a user types for columns, parameters, aggregates and counts, on the command line
as well as in the shell.
-/

namespace RowQuery.Argument

/-- The parts of a list, cut at each comma, without the white space around them. -/
def commaList (cs : List Char) : List String :=
  (cs.splitOn ',').map fun part => String.ofList (Text.trim part)

/-- Column names, with commas between them. -/
def columns (text : String) : List String := commaList text.toList

/-- The value of a parameter: a number if it spells one, and text otherwise. -/
def param (text : String) : Value := .ofUntyped (String.ofList (Text.trim text.toList))

/-- A column and the name of a function, with a colon between them. -/
def field? (text : String) : Option (String × String) :=
  (Text.splitFirst? ':' text.toList).map fun (column, function) =>
    (String.ofList (Text.trim column), String.ofList (Text.trim function))

/-- What is said of text that is no column with a function. -/
def fieldMessage (text : String) : String :=
  "Expected column:FUNCTION, got " ++ String.ofList (Text.quoted text.toList)

/-- The columns with functions that texts spell, or an error about the first text that spells none. -/
def fields {ε : Type} (error : String → ε) (texts : List String) : Except ε (List (String × String)) :=
  texts.mapM fun text =>
    match field? text with
    | some field => .ok field
    | none => .error (error text)

/-! ## Counts -/

/-- Why text is no count. -/
inductive CountError where
  | empty
  | invalidDigit
  | tooLarge
deriving DecidableEq

def CountError.message : CountError → String
  | empty => "cannot parse integer from empty string"
  | invalidDigit => "invalid digit found in string"
  | tooLarge => "number too large to fit in target type"

/-- Appends digits to a number of 64 bits. Of two faults the one further left is told. -/
def countDigits (n : Nat) : List Char → Except CountError Nat
  | [] => .ok n
  | c :: cs =>
    if c.isDigit then
      let longer := n * 10 + (c.toNat - '0'.toNat)
      if longer < 2 ^ 64 then countDigits longer cs else .error .tooLarge
    else .error .invalidDigit

/-- A number of 64 bits in decimal digits, with a plus sign or without. -/
def count (text : String) : Except CountError Nat :=
  match text.toList with
  | [] => .error .empty
  | ['+'] => .error .invalidDigit
  | '+' :: cs => countDigits 0 cs
  | cs => countDigits 0 cs

end RowQuery.Argument
