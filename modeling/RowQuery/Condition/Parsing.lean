import RowQuery.Condition.Binding
import RowQuery.Condition.Comparison
import RowQuery.Condition.Segment
/-!
# Reading a condition

Parameters are bound first, then the text is cut at its connectives, then each segment
is read as a comparison. Nothing fails: a segment that is none is kept as it is.
-/

namespace RowQuery

/-- The term of a segment. -/
def Term.ofSegment (segment : List Char) : Term :=
  match Comparison.parse? segment with
  | some c => .comparison c
  | none => .invalid (String.ofList segment)

def Term.ofToken : Condition.Token → Term
  | .segment text => .ofSegment text
  | .connective k => .connective k

namespace Condition

/-- The condition that a text spells with its placeholders bound to the parameters. -/
def parse (text : String) (params : List Value) : Condition :=
  ⟨(tokenize (bindParameters text params)).map Term.ofToken⟩

end Condition

end RowQuery
