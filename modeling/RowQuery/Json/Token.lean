import RowQuery.Json.Numeral
import RowQuery.Json.Quoted
/-!
# JSON tokens

JSON text is a sequence of tokens with white space between them. Which white space
stands there makes no difference to what the text means.
-/

namespace RowQuery.Json

inductive Token where
  | null
  | bool (b : Bool)
  | number (n : Number)
  | string (s : String)
  | openArray
  | closeArray
  | openObject
  | closeObject
  | comma
  | colon
deriving DecidableEq

/-- The white space of JSON text. -/
def isSpace (c : Char) : Bool := c == ' ' || c == '\t' || c == '\n' || c == '\r'

namespace Token

/-- The word in front of a text as a token, and what follows it. -/
def takeWord? (word : String) (token : Token) (cs : List Char) : Option (Token × List Char) :=
  if word.toList.isPrefixOf cs then some (token, cs.drop word.length) else none

/-- The token in front of a text that starts with no white space, and what follows it. -/
def take? (cs : List Char) : Option (Token × List Char) :=
  match cs with
  | [] => none
  | '[' :: cs => some (openArray, cs)
  | ']' :: cs => some (closeArray, cs)
  | '\x7b' :: cs => some (openObject, cs)
  | '\x7d' :: cs => some (closeObject, cs)
  | ',' :: cs => some (comma, cs)
  | ':' :: cs => some (colon, cs)
  | '"' :: cs => (takeString? cs).map fun (text, cs) => (string (String.ofList text), cs)
  | 'n' :: _ => takeWord? "null" null cs
  | 't' :: _ => takeWord? "true" (bool true) cs
  | 'f' :: _ => takeWord? "false" (bool false) cs
  | _ => do
    let (numeral, cs) ← Numeral.take? cs
    let n ← numeral.number?
    return (number n, cs)

theorem length_lt_of_takeWord? {word : String} {token t : Token} {cs rest : List Char}
    (hcs : cs ≠ []) (hw : 0 < word.length) (h : takeWord? word token cs = some (t, rest)) :
    rest.length < cs.length := by
  unfold takeWord? at h
  split at h
  · obtain ⟨_, rfl⟩ := Prod.mk.inj (Option.some.inj h)
    have := List.length_pos_iff.2 hcs
    simp only [List.length_drop]
    omega
  · simp at h

theorem length_lt_of_take? {cs rest : List Char} {t : Token} (h : take? cs = some (t, rest)) :
    rest.length < cs.length := by
  unfold take? at h
  split at h
  · simp at h
  iterate 6
    · obtain ⟨_, rfl⟩ := Prod.mk.inj (Option.some.inj h)
      simp
  · obtain ⟨⟨_, _⟩, hs, h⟩ := Option.map_eq_some_iff.1 h
    obtain ⟨_, rfl⟩ := Prod.mk.inj h
    have := length_lt_of_takeString? hs
    simp only [List.length_cons]
    omega
  iterate 3
    · exact length_lt_of_takeWord? (by simp) (by decide) h
  · simp only [Option.bind_eq_bind, Option.bind_eq_some_iff] at h
    obtain ⟨⟨_, _⟩, hn, _, _, h⟩ := h
    obtain ⟨_, rfl⟩ := Prod.mk.inj (Option.some.inj h)
    exact Numeral.length_lt_of_take? hn

/-- The tokens of a text. -/
def scan? (cs : List Char) : Option (List Token) :=
  match cs with
  | [] => some []
  | c :: cs =>
    if isSpace c then scan? cs
    else
      match h : take? (c :: cs) with
      | none => none
      | some (token, rest) =>
        have : rest.length < cs.length + 1 := length_lt_of_take? h
        (scan? rest).map (token :: ·)
termination_by cs.length

end Token

end RowQuery.Json
