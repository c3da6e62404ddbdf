import RowQuery.Text.Words
/-!
# Quoted literals in condition text

A literal stands between two single or two double quotes; a backslash in it takes the
next character as it is. `Quoting` says where a scan from left to right stands, and
every pass over condition text follows it.
-/

namespace RowQuery

def isQuote (c : Char) : Bool := c == '\'' || c == '"'

/-- Where a scan of condition text stands. -/
inductive Quoting where
  /-- Outside any literal. -/
  | bare
  /-- In a literal that `quote` closes. -/
  | inside (quote : Char)
  /-- Behind a backslash in such a literal. -/
  | escaped (quote : Char)
deriving DecidableEq

namespace Quoting

/-- The place after one more character. -/
def next : Quoting → Char → Quoting
  | bare, c => if isQuote c then inside c else bare
  | inside quote, c =>
    if c = '\\' then escaped quote else if c = quote then bare else inside quote
  | escaped quote, _ => inside quote

/-- The place after a text. -/
def after (q : Quoting) (cs : List Char) : Quoting := cs.foldl next q

end Quoting

/-- A character in a literal between single quotes, behind a backslash if it needs one. -/
def escapeChar (c : Char) : List Char := if c = '\\' ∨ c = '\'' then ['\\', c] else [c]

/-- Text between single quotes, a backslash before each single quote and each backslash. -/
def quoteLiteral (cs : List Char) : List Char := '\'' :: cs.flatMap escapeChar ++ ['\'']

/-- Reads a literal behind its opening quote: its text, and what follows the closing quote. -/
def readLiteral (quote : Char) : List Char → Option (List Char × List Char)
  | [] => none
  | c :: cs =>
    if c = '\\' then
      match cs with
      | [] => none
      | e :: cs => (readLiteral quote cs).map fun (text, rest) => (e :: text, rest)
    else if c = quote then some ([], cs)
    else (readLiteral quote cs).map fun (text, rest) => (c :: text, rest)

end RowQuery
