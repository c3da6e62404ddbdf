import RowQuery.Condition.Binding
import RowQuery.Proofs.PlainText
/-!
# The literal of a parameter

Whatever a parameter holds, its literal shows no white space outside quotes, closes what
it opens, and starts with a character that belongs to no keyword. That is all a pass over
condition text can see of it, so a literal stands in a segment as a single block.

Read on its own, the literal gives the parameter back: escaping is undone character by
character, and a bare literal is a numeral.
-/

namespace RowQuery

namespace Quoting

/-! ## Text without bare white space -/

/-- No white space of a text that starts at the place `q` stands outside a literal. -/
def Solid : Quoting → List Char → Prop
  | _, [] => True
  | q, c :: cs => (q = bare → Text.isBlank c = false) ∧ Solid (q.next c) cs

@[simp] theorem after_nil (q : Quoting) : q.after [] = q := rfl

@[simp] theorem after_cons (q : Quoting) (c : Char) (cs : List Char) :
    q.after (c :: cs) = (q.next c).after cs := rfl

theorem after_append (q : Quoting) (cs ds : List Char) : q.after (cs ++ ds) = (q.after cs).after ds :=
  List.foldl_append

theorem solid_append {q : Quoting} {cs ds : List Char} :
    Solid q (cs ++ ds) ↔ Solid q cs ∧ Solid (q.after cs) ds := by
  induction cs generalizing q with
  | nil => simp [Solid]
  | cons c cs ih => simp [Solid, ih, and_assoc]

theorem next_bare {c : Char} (h : isQuote c = false) : bare.next c = bare := by
  simp [next, h]

/-- Text without quotes stays outside literals. -/
theorem after_bare {cs : List Char} (h : ∀ c ∈ cs, isQuote c = false) : bare.after cs = bare := by
  induction cs with
  | nil => rfl
  | cons c cs ih =>
    rw [after_cons, next_bare (h c (by simp))]
    exact ih fun d hd => h d (by simp [hd])

theorem solid_bare {cs : List Char} (hquote : ∀ c ∈ cs, isQuote c = false)
    (hblank : ∀ c ∈ cs, Text.isBlank c = false) : Solid bare cs := by
  induction cs with
  | nil => trivial
  | cons c cs ih =>
    refine ⟨fun _ => hblank c (by simp), ?_⟩
    rw [next_bare (hquote c (by simp))]
    exact ih (fun d hd => hquote d (by simp [hd])) (fun d hd => hblank d (by simp [hd]))

/-! ## Quoted text -/

theorem after_escapeChar (c : Char) : (inside '\'').after (escapeChar c) = inside '\'' := by
  unfold escapeChar
  split
  next => rfl
  next h =>
    rw [not_or] at h
    simp [next, h]

theorem solid_escapeChar (c : Char) : Solid (inside '\'') (escapeChar c) := by
  unfold escapeChar
  split <;> simp [Solid, next]

/-- Escaped text stays within its literal. -/
theorem escaped_inside (cs : List Char) :
    Solid (inside '\'') (cs.flatMap escapeChar) ∧ (inside '\'').after (cs.flatMap escapeChar) = inside '\'' := by
  induction cs with
  | nil => exact ⟨trivial, rfl⟩
  | cons c cs ih =>
    rw [List.flatMap_cons, after_append, after_escapeChar]
    exact ⟨solid_append.2 ⟨solid_escapeChar c, by rw [after_escapeChar]; exact ih.1⟩, ih.2⟩

end Quoting

theorem readLiteral_close {quote : Char} (h : quote ≠ '\\') (cs : List Char) :
    readLiteral quote (quote :: cs) = some ([], cs) := by
  unfold readLiteral
  rw [if_neg h, if_pos rfl]

theorem readLiteral_escape (quote e : Char) (cs : List Char) :
    readLiteral quote ('\\' :: e :: cs) =
      (readLiteral quote cs).map fun (text, rest) => (e :: text, rest) := by
  rw [readLiteral, if_pos rfl]

theorem readLiteral_char {quote c : Char} (hc : c ≠ '\\') (hq : c ≠ quote) (cs : List Char) :
    readLiteral quote (c :: cs) = (readLiteral quote cs).map fun (text, rest) => (c :: text, rest) := by
  rw [readLiteral.eq_def]
  simp only
  rw [if_neg hc, if_neg hq]

/-- Reading behind the opening quote undoes the escapes, and stops at the closing quote. -/
theorem readLiteral_escaped (cs rest : List Char) :
    readLiteral '\'' (cs.flatMap escapeChar ++ '\'' :: rest) = some (cs, rest) := by
  induction cs with
  | nil => exact readLiteral_close (by decide) rest
  | cons c cs ih =>
    rw [List.flatMap_cons, List.append_assoc, escapeChar]
    split
    next => rw [List.cons_append, List.cons_append, List.nil_append, readLiteral_escape, ih]; rfl
    next h =>
      rw [not_or] at h
      rw [List.cons_append, List.nil_append, readLiteral_char h.1 h.2, ih]
      rfl

/-! ## Literals in a scan -/

/-- What a pass over condition text can tell of a literal. -/
structure IsLiteral (cs : List Char) : Prop where
  solid : Quoting.Solid .bare cs
  closed : Quoting.bare.after cs = .bare
  /-- It is not empty, and its first character is part of no keyword. -/
  starts : ∃ c rest, cs = c :: rest ∧ c.isAlpha = false
  ends : ∀ c ∈ cs.getLast?, Text.isBlank c = false

theorem IsLiteral.head {cs : List Char} (h : IsLiteral cs) :
    ∃ c rest, cs = c :: rest ∧ c.isAlpha = false ∧ Text.isBlank c = false := by
  obtain ⟨c, rest, rfl, halpha⟩ := h.starts
  exact ⟨c, rest, rfl, halpha, h.solid.1 rfl⟩

theorem IsLiteral.isBlank_head {cs : List Char} (h : IsLiteral cs) : ∀ c ∈ cs.head?, Text.isBlank c = false := by
  obtain ⟨c, rest, rfl, -, hblank⟩ := h.head
  simpa using hblank

theorem isLiteral_quoteLiteral (cs : List Char) : IsLiteral (quoteLiteral cs) where
  solid := by
    obtain ⟨hsolid, hafter⟩ := Quoting.escaped_inside cs
    refine ⟨fun _ => by decide, Quoting.solid_append.2 ⟨hsolid, ?_⟩⟩
    rw [show Quoting.bare.next '\'' = .inside '\'' by decide, hafter]
    exact ⟨by simp, trivial⟩
  closed := by
    unfold quoteLiteral
    rw [List.cons_append, Quoting.after_cons, Quoting.after_append,
      show Quoting.bare.next '\'' = .inside '\'' by decide, (Quoting.escaped_inside cs).2]
    rfl
  starts := ⟨_, _, rfl, by decide⟩
  ends c hc := by
    unfold quoteLiteral at hc
    rw [List.getLast?_append_of_ne_nil _ (by simp)] at hc
    obtain rfl := Option.some.inj hc
    decide

theorem isLiteral_of_parse? {cs : List Char} {n : Numeral} (h : Numeral.parse? cs = some n) : IsLiteral cs where
  solid := Quoting.solid_bare
    (fun c hc => Numeral.isQuote_of_isNumeralChar (Numeral.forall_isNumeralChar h c hc))
    (fun c hc => Numeral.isBlank_of_isNumeralChar (Numeral.forall_isNumeralChar h c hc))
  closed := Quoting.after_bare
    (fun c hc => Numeral.isQuote_of_isNumeralChar (Numeral.forall_isNumeralChar h c hc))
  starts := Numeral.head_of_parse? h
  ends c hc := Numeral.isBlank_of_isNumeralChar (Numeral.forall_isNumeralChar h c (List.mem_of_getLast? hc))

namespace Value

theorem literal_of_numeric? {v : Value} {x : FiniteDouble} (h : v.numeric? = some x) :
    v.literal = Text.trim v.comparisonText.toList := by
  simp only [literal, h]

theorem literal_of_text {v : Value} (h : v.numeric? = none) :
    v.literal = quoteLiteral v.comparisonText.toList := by
  simp only [literal, h]

/-- The literal of a numeric value is a numeral, of the number its text spells. -/
theorem parse?_literal {v : Value} {x : FiniteDouble} (h : v.numeric? = some x) :
    ∃ n y, Numeral.parse? v.literal = some n ∧ n.toDouble = .finite y ∧
      parseNumber v.comparisonText.toList = some y := by
  have hsome : (parseNumber v.comparisonText.toList).isSome := by
    rw [isSome_parseNumber_comparisonText, h]
    rfl
  obtain ⟨y, hy⟩ := Option.isSome_iff_exists.1 hsome
  obtain ⟨n, hparse, hn⟩ := parse?_of_parseNumber hy
  rw [literal_of_numeric? h]
  exact ⟨n, y, hparse, hn, hy⟩

/-- Every parameter is bound as a literal. -/
theorem isLiteral_literal (v : Value) : IsLiteral v.literal := by
  cases h : v.numeric? with
  | none =>
    rw [literal_of_text h]
    exact isLiteral_quoteLiteral _
  | some x =>
    obtain ⟨n, _, hparse, -⟩ := parse?_literal h
    exact isLiteral_of_parse? hparse

/-! ## Reading a literal back -/

/-- A literal is read as the value that the text of the parameter stands for: the number it
spells, or else the text itself with every character. -/
theorem parseLiteral?_literal (v : Value) : parseLiteral? v.literal = some (ofUntyped v.comparisonText) := by
  cases h : v.numeric? with
  | none =>
    have htext := v.isSome_parseNumber_comparisonText
    rw [h, Option.isSome_none, Option.isSome_eq_false_iff, Option.isNone_iff_eq_none] at htext
    rw [literal_of_text h, ofUntyped, htext]
    unfold quoteLiteral parseLiteral?
    simp [isQuote, readLiteral_escaped]
  | some x =>
    obtain ⟨n, y, hparse, hn, hy⟩ := parse?_literal h
    have hquote := fun c hc => Numeral.isQuote_of_isNumeralChar (Numeral.forall_isNumeralChar hparse c hc)
    have hnumber : parseNumber v.literal = some y := by
      rw [parseNumber_of_parse? hparse, hn]
      rfl
    obtain ⟨c, rest, hlit, -⟩ := Numeral.head_of_parse? hparse
    rw [hlit] at hquote hnumber ⊢
    have hany : (c :: rest).any isQuote = false := by
      rw [List.any_eq_false]
      intro d hd
      simp [hquote d hd]
    rw [ofUntyped, hy, parseLiteral?]
    simp [hquote c (by simp), hany, bareLiteral, hnumber]

end Value

end RowQuery
