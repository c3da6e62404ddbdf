import RowQuery.Proofs.Binding
import RowQuery.Proofs.Grammar
/-!
# Conditions with parameters, from text to terms

A condition of the shape `column operator ? and column operator ? ...` parses to just
these comparisons and connectives, whatever the parameters hold. The template is followed
through the three passes: binding puts a literal for each placeholder, cutting finds the
connectives and nothing else, and each segment is read as its comparison.

The value of a comparison is the parameter as its text reads: the number it stands for, or
else its text with every character.
-/

namespace RowQuery

/-! ## The shape -/

/-- A column compared with a parameter. A column name may well be a keyword. -/
structure Clause where
  column : String
  operator : Operator
  param : Value
  column_ne : column ≠ ""
  column_chars : ∀ c ∈ column.toList, isColumnChar c = true

/-- A further clause behind a connective, which may be written in any letter case. -/
structure Link where
  connective : Connective
  word : List Char
  clause : Clause
  spelled : word.map Char.toUpper = connective.word.toList

namespace Clause

/-- The clause up to its literal. -/
def lead (c : Clause) : List Char := c.column.toList ++ ' ' :: (c.operator.symbol.toList ++ [' '])

def template (c : Clause) : List Char := c.lead ++ ['?']

def bound (c : Clause) : List Char := c.lead ++ c.param.literal

def term (c : Clause) : Term :=
  .comparison { column := c.column, operator := c.operator, value := .ofUntyped c.param.comparisonText }

end Clause

/-- The link up to its clause. -/
def Link.lead (l : Link) : List Char := ' ' :: (l.word ++ [' '])

/-- The text of a condition with a placeholder in each clause. -/
def template (first : Clause) (links : List Link) : String :=
  String.ofList (first.template ++ links.flatMap fun l => l.lead ++ l.clause.template)

/-- What the template stands for. -/
def termsOf (first : Clause) (links : List Link) : List Term :=
  first.term :: links.flatMap fun l => [.connective l.connective, l.clause.term]

/-! ## Binding -/

/-- Text without quotes and placeholders is bound as it is. -/
def Inert (cs : List Char) : Prop := ∀ c ∈ cs, isQuote c = false ∧ c ≠ '?'

theorem bindFrom_append {cs : List Char} (h : Inert cs) (rest : List Char) (params : List Value) :
    bindFrom .bare (cs ++ rest) params = cs ++ bindFrom .bare rest params := by
  induction cs with
  | nil => rfl
  | cons c cs ih =>
    obtain ⟨hquote, hmark⟩ := h c (by simp)
    rw [List.cons_append, bindFrom_cons (fun hc => hmark hc.2), Quoting.next_bare hquote,
      ih fun d hd => h d (by simp [hd])]
    rfl

theorem Inert.after_eq_bare {cs : List Char} (h : Inert cs) : Quoting.bare.after cs = .bare :=
  Quoting.after_bare fun c hc => (h c hc).1

theorem inert_append {cs ds : List Char} : Inert (cs ++ ds) ↔ Inert cs ∧ Inert ds := by
  exact List.forall_mem_append

theorem inert_cons {c : Char} {cs : List Char} :
    Inert (c :: cs) ↔ (isQuote c = false ∧ c ≠ '?') ∧ Inert cs := by
  exact List.forall_mem_cons

theorem inert_nil : Inert [] := by
  simp [Inert]

theorem inert_of_isAlpha {cs : List Char} (h : ∀ c ∈ cs, c.isAlpha = true) : Inert cs := by
  intro c hc
  constructor
  · rw [Bool.eq_false_iff]
    intro hquote
    rcases isQuote_iff.1 hquote with rfl | rfl <;> exact absurd (h _ hc) (by decide)
  · rintro rfl
    exact absurd (h _ hc) (by decide)

theorem Operator.inert_symbol (o : Operator) : Inert o.symbol.toList := by
  cases o <;> simp [Inert, symbol, isQuote]

namespace Clause

theorem isQuote_of_mem_column (c : Clause) : ∀ d ∈ c.column.toList, isQuote d = false :=
  fun d hd => isQuote_of_isColumnChar (c.column_chars d hd)

theorem inert_column (c : Clause) : Inert c.column.toList := by
  intro d hd
  refine ⟨c.isQuote_of_mem_column d hd, ?_⟩
  rintro rfl
  exact absurd (c.column_chars _ hd) (by decide +kernel)

/-- A clause takes the parameter that comes next. -/
theorem bindFrom_template (c : Clause) (rest : List Char) (params : List Value) :
    bindFrom .bare (c.template ++ rest) (c.param :: params) = c.bound ++ bindFrom .bare rest params := by
  have hspace : isQuote ' ' = false ∧ ' ' ≠ '?' := by decide
  have hinert : Inert c.lead := by
    simp only [lead, inert_append, inert_cons]
    exact ⟨c.inert_column, hspace, c.operator.inert_symbol, hspace, inert_nil⟩
  rw [template, bound, List.append_assoc, bindFrom_append hinert, List.append_assoc]
  exact congrArg _ (bindFrom_placeholder rest _)

end Clause

theorem bindFrom_links (links : List Link) :
    bindFrom .bare (links.flatMap fun l => l.lead ++ l.clause.template) (links.map (·.clause.param)) =
      links.flatMap fun l => l.lead ++ l.clause.bound := by
  have hspace : isQuote ' ' = false ∧ ' ' ≠ '?' := by decide
  induction links with
  | nil => rfl
  | cons l links ih =>
    have hword := inert_of_isAlpha (isAlpha_of_isKeyword l.connective.isAlpha_of_mem_word (Text.isKeyword_iff.2 l.spelled))
    have hinert : Inert l.lead := by
      simp only [Link.lead, inert_append, inert_cons]
      exact ⟨hspace, hword, hspace, inert_nil⟩
    rw [List.flatMap_cons, List.flatMap_cons, List.map_cons, List.append_assoc, bindFrom_append hinert,
      List.append_assoc, l.clause.bindFrom_template, ih]

/-! ## Cutting -/

theorem Operator.solid_symbol (o : Operator) : Quoting.Solid .bare o.symbol.toList := by
  apply Quoting.solid_bare
  · intro c hc
    exact (o.inert_symbol c hc).1
  · cases o <;> simp [symbol, Text.isBlank_of_visible]

namespace Clause

/-- No clause is cut, whatever literal stands in it. -/
theorem segmentsFrom_bound (c : Clause) (rest : List Char) :
    segmentsFrom .bare (c.bound ++ rest) =
      ⟨c.bound ++ (segmentsFrom .bare rest).first, (segmentsFrom .bare rest).rest⟩ := by
  have hlit := c.param.isLiteral_literal
  have hcolumn : Quoting.Solid .bare c.column.toList :=
    Quoting.solid_bare c.isQuote_of_mem_column fun d hd => isBlank_of_isColumnChar (c.column_chars d hd)
  have hspace : ∀ {d : Char} {text rest : List Char}, text = d :: rest → Text.isBlank d = false →
      d.isAlpha = false → ∀ tail, cutAt? .bare (' ' :: (text ++ tail)) = none := by
    rintro d _ rest rfl hblank halpha tail
    exact connectiveAt?_space hblank halpha _
  -- White space stands before the operator and before the literal. Neither starts a word.
  obtain ⟨o, orest, hsymbol, hoblank, hoalpha⟩ := c.operator.head_symbol
  obtain ⟨l, lrest, hhead, hlalpha, hlblank⟩ := hlit.head
  simp only [bound, lead, List.append_assoc, List.cons_append, List.nil_append]
  rw [segmentsFrom_append hcolumn, c.inert_column.after_eq_bare,
    segmentsFrom_cons (hspace hsymbol hoblank hoalpha _), Quoting.next_bare (by decide),
    segmentsFrom_append c.operator.solid_symbol,
    c.operator.inert_symbol.after_eq_bare,
    segmentsFrom_cons (hspace hhead hlblank hlalpha _), Quoting.next_bare (by decide),
    segmentsFrom_append hlit.solid, hlit.closed]

theorem head_bound (c : Clause) (rest : List Char) :
    ∀ d ∈ (c.bound ++ rest).head?, Text.isBlank d = false := by
  have hne : c.column.toList ≠ [] := by
    rw [ne_eq, String.toList_eq_nil_iff]
    exact c.column_ne
  intro d hd
  rw [bound, lead, List.append_assoc, List.append_assoc, List.head?_append_of_ne_nil _ hne] at hd
  exact isBlank_of_isColumnChar (c.column_chars d (List.mem_of_mem_head? hd))

end Clause

/-- Every connective of the template is a cut, and nothing else is one. -/
theorem segmentsFrom_links (links : List Link) :
    segmentsFrom .bare (links.flatMap fun l => l.lead ++ l.clause.bound) =
      ⟨[], links.map fun l => (l.connective, l.clause.bound)⟩ := by
  induction links with
  | nil => exact segmentsFrom_nil _
  | cons l links ih =>
    rw [List.flatMap_cons]
    generalize hrest : (links.flatMap fun l => l.lead ++ l.clause.bound) = rest at ih ⊢
    have hcut : cutAt? .bare (l.lead ++ l.clause.bound ++ rest) =
        some (l.connective, l.clause.bound ++ rest) := by
      simp only [Link.lead, List.cons_append, List.append_assoc, List.nil_append]
      exact connectiveAt?_word (Text.isKeyword_iff.2 l.spelled) (l.clause.head_bound rest)
    rw [segmentsFrom_cut hcut, l.clause.segmentsFrom_bound, ih]
    simp

/-! ## Reading a clause -/

namespace Clause

/-- A clause is its comparison as it is usually written. -/
theorem bound_eq_written (c : Clause) : c.bound = Comparison.written c.column c.operator c.param.literal := by
  simp [bound, lead, Comparison.written]

theorem parse?_bound (c : Clause) :
    Comparison.parse? c.bound =
      some { column := c.column, operator := c.operator, value := .ofUntyped c.param.comparisonText } := by
  have hlit := c.param.isLiteral_literal
  rw [c.bound_eq_written]
  exact Comparison.parse?_written c.operator c.column_ne c.column_chars hlit.isBlank_head hlit.ends
    c.param.parseLiteral?_literal

end Clause

/-! ## The whole condition -/

/-- The value that a parameter comes back as: the number it stands for, up to the sign of
zero, or else its text with every character. -/
def Value.ReadsAs (v read : Value) : Prop :=
  match v.numeric? with
  | some x => ∃ y : FiniteDouble, read = .number (.finite y) ∧ y.normalizeZero = x.normalizeZero
  | none => read = .text v.comparisonText

theorem Value.readsAs_ofUntyped (v : Value) : v.ReadsAs (.ofUntyped v.comparisonText) := by
  have htext := v.parseNumber_comparisonText
  unfold ReadsAs ofUntyped
  cases h : v.numeric? with
  | some x =>
    rw [h] at htext
    obtain ⟨y, hy, hyx⟩ := Option.map_eq_some_iff.1 htext
    exact ⟨y, by rw [hy], hyx⟩
  | none =>
    rw [h, Option.map_none, Option.map_eq_none_iff] at htext
    simp only [htext]

/-- **A condition with parameters parses to what it says.** The terms are the comparisons
and the connectives of the template and no others, and each comparison holds its
parameter. -/
theorem parse_template (first : Clause) (links : List Link) :
    Condition.parse (template first links) (first.param :: links.map (·.clause.param)) =
        ⟨termsOf first links⟩ ∧
      ∀ v : Value, v.ReadsAs (.ofUntyped v.comparisonText) := by
  refine ⟨?_, Value.readsAs_ofUntyped⟩
  have hterm : ∀ c : Clause, Term.ofSegment c.bound = c.term := by
    intro c
    rw [Term.ofSegment, c.parse?_bound]
    rfl
  rw [Condition.parse_eq, segments, bindParameters, String.toList_ofList, template, String.toList_ofList,
    first.bindFrom_template, bindFrom_links, first.segmentsFrom_bound, segmentsFrom_links,
    List.append_nil]
  simp only [Condition.ofSegments, termsOf, hterm, List.flatMap_map]

/-- Connectives in mixed and in lower case, columns named by keywords, a parameter that looks like a
condition, a missing one, and one that stands for a number. -/
theorem parse_template_in_mixed_case :
    Condition.parse "and = ? oR or != ? and a.b < ?" [.text "x' AND y = '\\", .null, .text " 07 "] =
      ⟨[.comparison ⟨"and", .equal, .text "x' AND y = '\\"⟩, .connective .or, .comparison ⟨"or", .notEqual, .text ""⟩,
        .connective .and, .comparison ⟨"a.b", .less, .number (.ofNat 7)⟩]⟩ := by
  let first : Clause := ⟨"and", .equal, .text "x' AND y = '\\", by decide, List.all_eq_true.1 (by decide +kernel)⟩
  let second : Clause := ⟨"or", .notEqual, .null, by decide, List.all_eq_true.1 (by decide +kernel)⟩
  let third : Clause := ⟨"a.b", .less, .text " 07 ", by decide, List.all_eq_true.1 (by decide +kernel)⟩
  let links : List Link := [⟨.or, "oR".toList, second, by decide⟩, ⟨.and, "and".toList, third, by decide⟩]
  have htext : template first links = "and = ? oR or != ? and a.b < ?" := by decide
  have hparse := (parse_template first links).1
  rw [htext] at hparse
  exact hparse.trans (by decide +kernel)

end RowQuery
