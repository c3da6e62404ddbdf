import RowQuery.Condition.Quoting
import RowQuery.Value.Basic
/-!
# Parameters of a condition

Each `?` outside a literal stands for the next parameter, and is replaced by text
that reads as that parameter: a bare number, or a quoted literal. What a parameter
holds can therefore not become part of the structure of the condition.
-/

namespace RowQuery

/-- The text a parameter is bound as. Null is bound as the empty literal. -/
def Value.literal (v : Value) : List Char :=
  match v.numeric? with
  | some _ => Text.trim v.comparisonText.toList
  | none => quoteLiteral v.comparisonText.toList

/-- The text for a placeholder, given the parameters that are left. -/
def literalOfNext (params : List Value) : List Char := (params.headD .null).literal

/-- Replaces the placeholders of a text that starts at the place `q`. -/
def bindFrom : Quoting → List Char → List Value → List Char
  | _, [], _ => []
  | q, c :: cs, params =>
    if q = .bare ∧ c = '?' then literalOfNext params ++ bindFrom .bare cs params.tail
    else c :: bindFrom (q.next c) cs params

/-- Replaces the placeholders from left to right. A missing parameter is bound as null,
and surplus ones are left out. -/
def bindParameters (condition : String) (params : List Value) : String :=
  String.ofList (bindFrom .bare condition.toList params)

end RowQuery
