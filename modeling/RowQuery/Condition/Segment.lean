import RowQuery.Condition.Basic
import RowQuery.Condition.Quoting
import RowQuery.Text.Scan
/-!
# Segments of condition text

Condition text is cut at the words AND and OR wherever they stand between white space
and outside a literal. The white space around such a word goes with it.

The cut text is a list of tokens, to which a scan adds what it has read whenever it comes to a
cut. As such a list could start with a connective, or hold two in a row, `Segments` says in
its shape that segments and connectives take turns. Laid flat it is the list (`tokenize_eq`).
-/

namespace RowQuery

/-- The connective that a word names, in any letter case. -/
def Connective.ofWord? (word : List Char) : Option Connective :=
  if Text.isKeyword "AND" word then some .and
  else if Text.isKeyword "OR" word then some .or
  else none

/-- The connective that stands, between white space, at the start of a text, and what
follows the white space behind it. -/
def connectiveAt? : List Char → Option (Connective × List Char)
  | [] => none
  | c :: cs =>
    if Text.isBlank c then
      let body := Text.trimStart cs
      match body.dropWhile Char.isAlpha with
      | [] => none
      | d :: rest =>
        if Text.isBlank d then
          (Connective.ofWord? (body.takeWhile Char.isAlpha)).map fun k => (k, Text.trimStart rest)
        else none
    else none

/-- A connective takes at least one character of the text. -/
theorem length_lt_of_connectiveAt? {cs rest : List Char} {k : Connective}
    (h : connectiveAt? cs = some (k, rest)) : rest.length < cs.length := by
  match cs with
  | [] => simp [connectiveAt?] at h
  | c :: cs =>
    simp only [connectiveAt?] at h
    split at h
    · split at h
      · simp at h
      next d tail hd =>
        split at h
        · obtain ⟨_, _, he⟩ := Option.map_eq_some_iff.1 h
          obtain ⟨rfl, rfl⟩ := Prod.mk.inj he
          have h1 := length_dropWhile_le Text.isBlank tail
          have h2 := length_dropWhile_le Char.isAlpha (Text.trimStart cs)
          have h3 := length_dropWhile_le Text.isBlank cs
          rw [hd] at h2
          simp only [List.length_cons, Text.trimStart] at *
          omega
        · simp at h
    · simp at h

/-- The connective at which a text is cut first of all, if it starts at the place `q`. -/
def cutAt? (q : Quoting) (cs : List Char) : Option (Connective × List Char) :=
  if q = .bare then connectiveAt? cs else none

theorem length_lt_of_cutAt? {q : Quoting} {cs rest : List Char} {k : Connective}
    (h : cutAt? q cs = some (k, rest)) : rest.length < cs.length := by
  unfold cutAt? at h
  split at h
  · exact length_lt_of_connectiveAt? h
  · simp at h

/-! ## Tokens -/

/-- A piece of condition text. -/
inductive Condition.Token where
  | segment (text : List Char)
  | connective (k : Connective)
deriving DecidableEq

/-- Cuts a text that starts at the place `q`. What was read of the segment at hand is in `read`, the
last character in front. -/
def tokensFrom (q : Quoting) (cs read : List Char) (tokens : Array Condition.Token) : Array Condition.Token :=
  match cs with
  | [] => tokens.push (.segment read.reverse)
  | c :: tail =>
    match h : cutAt? q (c :: tail) with
    | some (k, rest) =>
      have : rest.length < tail.length + 1 := length_lt_of_cutAt? h
      tokensFrom .bare rest [] ((tokens.push (.segment read.reverse)).push (.connective k))
    | none => tokensFrom (q.next c) tail (c :: read) tokens
termination_by cs.length

/-- The tokens of condition text. -/
def tokenize (text : String) : List Condition.Token := (tokensFrom .bare text.toList [] #[]).toList

/-! ## Segments -/

/-- Text cut at its connectives: the first segment, then each connective with the
segment behind it. -/
structure Segments where
  first : List Char
  rest : List (Connective × List Char)
deriving DecidableEq

/-- The tokens of segments. -/
def Segments.tokens (s : Segments) : List Condition.Token :=
  .segment s.first :: s.rest.flatMap fun (k, segment) => [.connective k, .segment segment]

/-- Cuts a text that starts at the place `q`. -/
def segmentsFrom (q : Quoting) (cs : List Char) : Segments :=
  match cs with
  | [] => ⟨[], []⟩
  | c :: tail =>
    match h : cutAt? q (c :: tail) with
    | some (k, rest) =>
      have : rest.length < tail.length + 1 := length_lt_of_cutAt? h
      let segments := segmentsFrom .bare rest
      ⟨[], (k, segments.first) :: segments.rest⟩
    | none =>
      let segments := segmentsFrom (q.next c) tail
      ⟨c :: segments.first, segments.rest⟩
termination_by cs.length

/-- The segments of condition text. -/
def segments (text : String) : Segments := segmentsFrom .bare text.toList

end RowQuery
