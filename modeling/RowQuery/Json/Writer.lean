import RowQuery.Json.Numeral
import RowQuery.Json.Quoted
/-!
# Writing JSON

The compact layout has no white space. The indented one puts every item on a line of
its own, two spaces further in than its brackets, and a space behind each colon; an
empty array or object stays on its line.

Trusted: the program writes JSON with a library, and this module and the writing halves of
`Json.Numeral` and `Json.Quoted` stand for it. The two layouts, the characters that are escaped and
the digits of a double are taken from the library and are not proved of it. Which JSON a value, a
record or a page is written as is the work of the program (`Json.Records`).
-/

namespace RowQuery.Json

inductive Layout where
  | compact
  | indented
deriving DecidableEq

namespace Layout

/-- What stands before an item or a closing bracket at a depth. -/
def lineBreak : Layout → Nat → List Char
  | compact, _ => []
  | indented, depth => '\n' :: List.replicate (2 * depth) ' '

def colon : Layout → List Char
  | compact => [':']
  | indented => [':', ' ']

end Layout

mutual

/-- A value at a depth. -/
def render (layout : Layout) (depth : Nat) : Json → List Char
  | null => "null".toList
  | bool b => (if b then "true" else "false").toList
  | number n => n.text
  | string s => stringText s
  | array [] => ['[', ']']
  | array (item :: items) =>
    '[' :: layout.lineBreak (depth + 1) ++ render layout (depth + 1) item ++
      renderItems layout (depth + 1) items ++ layout.lineBreak depth ++ [']']
  | object [] => ['\x7b', '\x7d']
  | object ((name, value) :: entries) =>
    '\x7b' :: layout.lineBreak (depth + 1) ++ stringText name ++ layout.colon ++
      render layout (depth + 1) value ++
      renderEntries layout (depth + 1) entries ++ layout.lineBreak depth ++ ['\x7d']

/-- The items after the first. -/
def renderItems (layout : Layout) (depth : Nat) : List Json → List Char
  | [] => []
  | item :: items =>
    ',' :: layout.lineBreak depth ++ render layout depth item ++ renderItems layout depth items

/-- The entries after the first. -/
def renderEntries (layout : Layout) (depth : Nat) : List (String × Json) → List Char
  | [] => []
  | (name, value) :: entries =>
    ',' :: layout.lineBreak depth ++ stringText name ++ layout.colon ++
      render layout depth value ++ renderEntries layout depth entries

end

/-- The text of a value. -/
def text (layout : Layout) (j : Json) : String := String.ofList (render layout 0 j)

end RowQuery.Json
