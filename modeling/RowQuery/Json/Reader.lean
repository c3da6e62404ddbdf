import RowQuery.Entries
import RowQuery.Json.Token
/-!
# Reading JSON

A value is read from tokens. Arrays and objects nest up to a fixed depth, which is also
what the reader recurses on. A name that occurs again in an object keeps its first
position and takes the last value.

Trusted: the program reads JSON with a library, and this module, `Json.Token` and the reading
halves of `Json.Numeral` and `Json.Quoted` stand for it. That it reads this grammar, refuses to nest
deeper than `nestingLimit`, treats repeated names like this and rounds numerals the way
`Json.Numeral` says is taken from the library and is not proved of it. What becomes of a value that
was read is the work of the program (`Json.Records`).
-/

namespace RowQuery.Json

/-- How deep arrays and objects may nest. -/
abbrev nestingLimit : Nat := 127

/-- Reads items with commas between them up to the closing token, at most `limit` of them. -/
def takeItems? {α : Type} (item? : List Token → Option (α × List Token)) (close : Token) :
    Nat → List Token → Option (List α × List Token)
  | 0, _ => none
  | limit + 1, tokens => do
    let (item, tokens) ← item? tokens
    match tokens with
    | [] => none
    | .comma :: tokens =>
      let (items, tokens) ← takeItems? item? close limit tokens
      return (item :: items, tokens)
    | token :: tokens => if token = close then return ([item], tokens) else none

/-- Reads a name, a colon and a value. -/
def takeMember? (value? : List Token → Option (Json × List Token)) :
    List Token → Option ((String × Json) × List Token)
  | .string name :: .colon :: tokens =>
    (value? tokens).map fun (value, tokens) => ((name, value), tokens)
  | _ => none

/-- Reads a value in which arrays and objects nest at most `depth` deep and have at most
`limit` items each. -/
def take? (limit : Nat) : (depth : Nat) → List Token → Option (Json × List Token)
  | _, .null :: tokens => some (null, tokens)
  | _, .bool b :: tokens => some (bool b, tokens)
  | _, .number n :: tokens => some (number n, tokens)
  | _, .string s :: tokens => some (string s, tokens)
  | _ + 1, .openArray :: .closeArray :: tokens => some (array [], tokens)
  | depth + 1, .openArray :: tokens =>
    (takeItems? (take? limit depth) .closeArray limit tokens).map
      fun (items, tokens) => (array items, tokens)
  | _ + 1, .openObject :: .closeObject :: tokens => some (object [], tokens)
  | depth + 1, .openObject :: tokens =>
    (takeItems? (takeMember? (take? limit depth)) .closeObject limit tokens).map
      fun (entries, tokens) => (object (setEntries [] entries), tokens)
  | _, _ => none

/-- The value that a text spells. It has no more items than the text has tokens. -/
def parse? (cs : List Char) : Option Json := do
  let tokens ← Token.scan? cs
  let (value, rest) ← take? tokens.length nestingLimit tokens
  if rest = [] then some value else none

end RowQuery.Json
