import RowQuery.Proofs.Literal
/-!
# Literals that are closed

What a scan takes for a literal, said without a scan. `Unescapes` relates the text between two
quotes to the text it stands for, and reading a literal finds just that
(`readLiteral_eq_some_iff`). A scan ends outside literals exactly when every literal of the text
is closed (`Quoting.after_eq_bare_iff`).
-/

namespace RowQuery

/-- Text between two quotes, as it is written and as it reads. A backslash and the character
behind it stand for that character; without a backslash the quote does not occur. -/
inductive Unescapes (quote : Char) : List Char → List Char → Prop
  | nil : Unescapes quote [] []
  | escape (c : Char) {body text : List Char} (tail : Unescapes quote body text) :
    Unescapes quote ('\\' :: c :: body) (c :: text)
  | char {c : Char} {body text : List Char} (not_backslash : c ≠ '\\') (not_quote : c ≠ quote)
    (tail : Unescapes quote body text) : Unescapes quote (c :: body) (c :: text)

theorem ne_backslash_of_isQuote {c : Char} (h : isQuote c = true) : c ≠ '\\' := by
  rintro rfl
  exact absurd h (by decide)

/-! ## Reading a literal -/

theorem readLiteral_of_unescapes {quote : Char} (hquote : quote ≠ '\\') {body text : List Char}
    (h : Unescapes quote body text) (rest : List Char) :
    readLiteral quote (body ++ quote :: rest) = some (text, rest) := by
  induction h with
  | nil => exact readLiteral_close hquote rest
  | escape c _ ih =>
    rw [List.cons_append, List.cons_append, readLiteral_escape, ih]
    rfl
  | char hbackslash hne _ ih =>
    rw [List.cons_append, readLiteral_char hbackslash hne, ih]
    rfl

theorem unescapes_of_readLiteral {quote : Char} {cs text rest : List Char}
    (h : readLiteral quote cs = some (text, rest)) :
    ∃ body, cs = body ++ quote :: rest ∧ Unescapes quote body text := by
  induction cs using readLiteral.induct quote generalizing text with
  | case1 => simp [readLiteral] at h
  | case2 => simp [readLiteral] at h
  | case3 e cs ih =>
    rw [readLiteral_escape] at h
    obtain ⟨⟨tail, _⟩, hread, heq⟩ := Option.map_eq_some_iff.1 h
    obtain ⟨rfl, rfl⟩ := Prod.mk.inj heq
    obtain ⟨body, rfl, hbody⟩ := ih hread
    exact ⟨'\\' :: e :: body, rfl, .escape e hbody⟩
  | case4 cs hquote =>
    rw [readLiteral_close hquote] at h
    obtain ⟨rfl, rfl⟩ := Prod.mk.inj (Option.some.inj h)
    exact ⟨[], rfl, .nil⟩
  | case5 c cs hbackslash hne ih =>
    rw [readLiteral_char hbackslash hne] at h
    obtain ⟨⟨tail, _⟩, hread, heq⟩ := Option.map_eq_some_iff.1 h
    obtain ⟨rfl, rfl⟩ := Prod.mk.inj heq
    obtain ⟨body, rfl, hbody⟩ := ih hread
    exact ⟨c :: body, rfl, .char hbackslash hne hbody⟩

/-- Reading behind a quote goes up to the first quote of its kind that is not escaped. -/
theorem readLiteral_eq_some_iff {quote : Char} (hquote : quote ≠ '\\') {cs text rest : List Char} :
    readLiteral quote cs = some (text, rest) ↔
      ∃ body, cs = body ++ quote :: rest ∧ Unescapes quote body text := by
  constructor
  · exact unescapes_of_readLiteral
  · rintro ⟨body, rfl, h⟩
    exact readLiteral_of_unescapes hquote h rest

/-! ## Scanning over literals -/

/-- Text in which every literal is closed. -/
inductive Closed : List Char → Prop
  | nil : Closed []
  | bare {c : Char} {cs : List Char} (not_quote : isQuote c = false) (tail : Closed cs) : Closed (c :: cs)
  | literal {quote : Char} {body text cs : List Char} (is_quote : isQuote quote = true)
    (between : Unescapes quote body text) (tail : Closed cs) : Closed (quote :: (body ++ quote :: cs))

namespace Quoting

theorem after_of_unescapes {quote : Char} {body text : List Char} (h : Unescapes quote body text) :
    (inside quote).after body = inside quote := by
  induction h with
  | nil => rfl
  | escape c _ ih =>
    rw [after_cons, after_cons]
    simpa [next] using ih
  | char hbackslash hne _ ih =>
    rw [after_cons]
    simpa [next, hbackslash, hne] using ih

theorem after_of_closed {cs : List Char} (h : Closed cs) : bare.after cs = bare := by
  induction h with
  | nil => rfl
  | bare hquote _ ih =>
    rw [after_cons, next_bare hquote]
    exact ih
  | @literal quote _ _ _ hquote between _ ih =>
    have hopen : bare.next quote = inside quote := if_pos hquote
    have hclose : (inside quote).next quote = bare := by
      simp [next, ne_backslash_of_isQuote hquote]
    rw [after_cons, hopen, after_append, after_of_unescapes between, after_cons, hclose]
    exact ih

/-- Text behind the opening quote of a literal: the literal is closed, and so are all behind it. -/
def Closes (quote : Char) (cs : List Char) : Prop :=
  ∃ body text rest, cs = body ++ quote :: rest ∧ Unescapes quote body text ∧ Closed rest

/-- All literals of a text are closed, for a scan that comes to it at the place `q`. -/
def ClosedFrom : Quoting → List Char → Prop
  | bare, cs => Closed cs
  | inside quote, cs => Closes quote cs
  | escaped quote, cs => ∃ c tail, cs = c :: tail ∧ Closes quote tail

theorem closedFrom_of_after {q : Quoting} {cs : List Char} (h : q.after cs = bare) : ClosedFrom q cs := by
  induction cs generalizing q with
  | nil =>
    obtain rfl : q = bare := h
    exact Closed.nil
  | cons c cs ih =>
    have htail : ClosedFrom (q.next c) cs := ih h
    cases q with
    | bare =>
      by_cases hc : isQuote c = true
      · rw [show bare.next c = inside c from if_pos hc] at htail
        obtain ⟨body, text, rest, rfl, hbody, hrest⟩ := htail
        exact Closed.literal hc hbody hrest
      · rw [next_bare (Bool.eq_false_iff.2 hc)] at htail
        exact Closed.bare (Bool.eq_false_iff.2 hc) htail
    | inside quote =>
      by_cases hbackslash : c = '\\'
      · rw [show (inside quote).next c = escaped quote from if_pos hbackslash] at htail
        obtain ⟨e, tail, rfl, body, text, rest, rfl, hbody, hrest⟩ := htail
        exact ⟨'\\' :: e :: body, e :: text, rest, by rw [hbackslash]; rfl, .escape e hbody, hrest⟩
      · by_cases hclose : c = quote
        · rw [show (inside quote).next c = bare from (if_neg hbackslash).trans (if_pos hclose)] at htail
          exact ⟨[], [], cs, by rw [hclose]; rfl, .nil, htail⟩
        · rw [show (inside quote).next c = inside quote from (if_neg hbackslash).trans (if_neg hclose)] at htail
          obtain ⟨body, text, rest, rfl, hbody, hrest⟩ := htail
          exact ⟨c :: body, c :: text, rest, rfl, .char hbackslash hclose hbody, hrest⟩
    | escaped quote => exact ⟨c, cs, rfl, htail⟩

/-- A scan ends outside literals exactly when all of them are closed. -/
theorem after_eq_bare_iff {cs : List Char} : bare.after cs = bare ↔ Closed cs :=
  ⟨closedFrom_of_after, after_of_closed⟩

end Quoting

end RowQuery
