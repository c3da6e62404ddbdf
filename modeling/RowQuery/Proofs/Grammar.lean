import RowQuery.Proofs.Closed
import RowQuery.Proofs.Segments
/-!
# The grammar of comparisons

A comparison is written as a column, an operator and a literal, with white space allowed in front
of the operator and of the literal (`Spelling`). Text is read as a comparison exactly when it is
such a spelling, white space around it aside, and no text has two (`Comparison.parse?_iff_spells`).

Reading takes the parts off from left to right. Each part ends where the next one cannot be a
piece of it, which is what the lemmas on the parts say.
-/

namespace RowQuery

/-! ## Operators -/

/-- A symbol starts with neither white space nor a letter. -/
theorem Operator.head_symbol (o : Operator) :
    ∃ c rest, o.symbol.toList = c :: rest ∧ Text.isBlank c = false ∧ c.isAlpha = false := by
  cases o <;> exact ⟨_, _, rfl, by decide, by decide⟩

/-- The longest symbol in front is read: one of a single character has no equals sign behind it. -/
theorem readOperator?_eq_some_iff {cs rest : List Char} {o : Operator} :
    readOperator? cs = some (o, rest) ↔
      cs = o.symbol.toList ++ rest ∧ (o.symbol.toList.length = 1 → rest.head? ≠ some '=') := by
  have hequals : (∀ tail, rest ≠ '=' :: tail) ↔ rest.head? ≠ some '=' := by
    cases rest <;> simp
  rw [← hequals]
  constructor
  · intro h
    unfold readOperator? at h
    split at h <;> cases h
    all_goals simp_all [Operator.symbol]
  · rintro ⟨rfl, hend⟩
    cases o <;> simp_all [Operator.symbol, readOperator?]

/-! ## Literals -/

/-- A literal as it is written. -/
inductive Literal where
  | quoted (quote : Char) (body : List Char)
  | bare (text : List Char)

namespace Literal

def text : Literal → List Char
  | quoted quote body => quote :: (body ++ [quote])
  | bare text => text

/-- The value of a text without quotes: a number or a truth value if it spells one, the latter in any letter
case. -/
inductive BareDenotes (text : List Char) : Value → Prop
  | number {x : FiniteDouble} (numeric : parseNumber text = some x) : BareDenotes text (.number (.finite x))
  | truth {b : Bool} (not_numeric : parseNumber text = none)
    (word : text.map Char.toUpper = (if b then "TRUE" else "FALSE").toList) : BareDenotes text (.bool b)
  | text (not_numeric : parseNumber text = none) (not_true : text.map Char.toUpper ≠ "TRUE".toList)
    (not_false : text.map Char.toUpper ≠ "FALSE".toList) : BareDenotes text (.text (String.ofList text))

/-- The value of a literal. Between quotes everything is text. -/
inductive Denotes : Literal → Value → Prop
  | quoted {quote : Char} {body text : List Char} (is_quote : isQuote quote = true)
    (between : Unescapes quote body text) : Denotes (.quoted quote body) (.text (String.ofList text))
  | bare {text : List Char} {v : Value} (ne_nil : text ≠ []) (plain : ∀ c ∈ text, isQuote c = false)
    (value : BareDenotes text v) : Denotes (.bare text) v

theorem bareDenotes_iff {text : List Char} {v : Value} : BareDenotes text v ↔ bareLiteral text = v := by
  unfold bareLiteral
  simp only [Text.isKeyword_iff]
  constructor
  · intro h
    cases h with
    | number numeric => rw [numeric]
    | @truth b not_numeric word =>
      rw [not_numeric]
      cases b with
      | true => exact if_pos word
      | false =>
        have htrue : text.map Char.toUpper ≠ "TRUE".toList := by
          rw [word]
          decide
        exact (if_neg htrue).trans (if_pos word)
    | text not_numeric not_true not_false =>
      rw [not_numeric]
      exact (if_neg not_true).trans (if_neg not_false)
  · rintro rfl
    split
    next x numeric => exact .number numeric
    next not_numeric =>
      split
      next htrue => exact .truth (b := true) not_numeric htrue
      next htrue =>
        split
        next hfalse => exact .truth (b := false) not_numeric hfalse
        next hfalse => exact .text not_numeric htrue hfalse

theorem text_quoted_ne {quote : Char} {body cs : List Char} (hquote : isQuote quote = true)
    (hplain : ∀ c ∈ cs, isQuote c = false) : (quoted quote body).text ≠ (bare cs).text := by
  intro heq
  have hmem : quote ∈ (bare cs).text := heq ▸ List.mem_cons_self
  rw [hplain quote hmem] at hquote
  cases hquote

/-- Of literals that have a value, no two are written alike. -/
theorem text_inj {l l' : Literal} {v v' : Value} (h : l.Denotes v) (h' : l'.Denotes v') (heq : l.text = l'.text) :
    l = l' := by
  cases h with
  | quoted is_quote _ =>
    cases h' with
    | quoted _ _ =>
      obtain ⟨rfl, hbody⟩ := List.cons.inj heq
      rw [List.append_cancel_right hbody]
    | bare _ plain _ => exact absurd heq (text_quoted_ne is_quote plain)
  | bare _ plain _ =>
    cases h' with
    | quoted is_quote _ => exact absurd heq.symm (text_quoted_ne is_quote plain)
    | bare _ _ _ => exact congrArg _ heq

end Literal

theorem parseLiteral?_eq_some_iff {cs : List Char} {v : Value} :
    parseLiteral? cs = some v ↔ ∃ l : Literal, l.text = cs ∧ l.Denotes v := by
  constructor
  · intro h
    cases cs with
    | nil => cases h
    | cons c cs =>
      rw [parseLiteral?] at h
      split at h
      next hquote =>
        split at h
        next text hread =>
          obtain ⟨body, rfl, hbody⟩ := (readLiteral_eq_some_iff (ne_backslash_of_isQuote hquote)).1 hread
          obtain rfl := Option.some.inj h
          exact ⟨.quoted c body, rfl, .quoted hquote hbody⟩
        next => cases h
      next =>
        split at h
        next => cases h
        next hany =>
          refine ⟨.bare (c :: cs), rfl, .bare (List.cons_ne_nil c cs) ?_ (Literal.bareDenotes_iff.2 (Option.some.inj h))⟩
          intro d hd
          exact Bool.eq_false_iff.2 fun hquote => hany (List.any_eq_true.2 ⟨d, hd, hquote⟩)
  · rintro ⟨l, rfl, h⟩
    cases h with
    | @quoted quote body text is_quote between =>
      rw [Literal.text, parseLiteral?, if_pos is_quote,
        (readLiteral_eq_some_iff (ne_backslash_of_isQuote is_quote)).2 ⟨body, rfl, between⟩]
    | @bare text v ne_nil plain value =>
      obtain ⟨c, cs, rfl⟩ := List.exists_cons_of_ne_nil ne_nil
      have hany : ¬(c :: cs).any isQuote = true := by simpa using plain
      have hquote : ¬isQuote c = true := by simp [plain c List.mem_cons_self]
      rw [Literal.text, parseLiteral?, if_neg hquote, if_neg hany, Literal.bareDenotes_iff.1 value]

/-! ## Comparisons -/

/-- A comparison as it is written. -/
structure Spelling where
  column : List Char
  /-- White space in front of the operator. -/
  gap : List Char
  operator : Operator
  /-- White space in front of the literal. -/
  space : List Char
  literal : Literal

namespace Spelling

/-- What stands behind the operator. -/
def right (p : Spelling) : List Char := p.space ++ p.literal.text

def text (p : Spelling) : List Char := p.column ++ (p.gap ++ (p.operator.symbol.toList ++ p.right))

/-- The parts are what they should be, and stand for the parts of the comparison. -/
structure Spells (p : Spelling) (c : Comparison) : Prop where
  column_ne : p.column ≠ []
  column_chars : ∀ d ∈ p.column, isColumnChar d = true
  gap_blank : ∀ d ∈ p.gap, Text.isBlank d = true
  /-- A symbol of one character ends there. -/
  symbol_ends : p.operator.symbol.toList.length = 1 → p.right.head? ≠ some '='
  space_blank : ∀ d ∈ p.space, Text.isBlank d = true
  literal_head : ∀ d ∈ p.literal.text.head?, Text.isBlank d = false
  column_eq : c.column = String.ofList p.column
  operator_eq : c.operator = p.operator
  value : p.literal.Denotes c.value

end Spelling

namespace Spelling.Spells

variable {p : Spelling} {c : Comparison} (h : p.Spells c)

include h

/-- Neither the white space nor the operator behind the column can belong to it. -/
theorem scan_column : p.text.takeWhile isColumnChar = p.column ∧
    p.text.dropWhile isColumnChar = p.gap ++ (p.operator.symbol.toList ++ p.right) := by
  refine takeWhile_dropWhile_append h.column_chars ?_
  intro d hd
  cases hgap : p.gap with
  | nil =>
    rw [hgap] at hd
    cases ho : p.operator <;> rw [ho] at hd <;> obtain rfl := Option.some.inj hd <;> decide +kernel
  | cons e gap =>
    rw [hgap] at hd
    obtain rfl := Option.some.inj hd
    have hblank := h.gap_blank e (hgap ▸ List.mem_cons_self)
    rw [Bool.eq_false_iff]
    intro hchar
    rw [isBlank_of_isColumnChar hchar] at hblank
    cases hblank

theorem scan_gap : (p.gap ++ (p.operator.symbol.toList ++ p.right)).takeWhile Text.isBlank = p.gap ∧
    Text.trimStart (p.gap ++ (p.operator.symbol.toList ++ p.right)) = p.operator.symbol.toList ++ p.right := by
  refine takeWhile_dropWhile_append h.gap_blank ?_
  obtain ⟨d, rest, hsymbol, hblank, -⟩ := p.operator.head_symbol
  rw [hsymbol]
  simpa using hblank

theorem readOperator?_eq : readOperator? (p.operator.symbol.toList ++ p.right) = some (p.operator, p.right) :=
  readOperator?_eq_some_iff.2 ⟨rfl, h.symbol_ends⟩

theorem scan_space : p.right.takeWhile Text.isBlank = p.space ∧ Text.trimStart p.right = p.literal.text :=
  takeWhile_dropWhile_append h.space_blank h.literal_head

/-- A spelling is read as the comparison that it spells. -/
theorem parse?_eq {text : List Char} (htext : p.text = Text.trim text) : Comparison.parse? text = some c := by
  unfold Comparison.parse?
  dsimp only
  rw [← htext, h.scan_column.1, h.scan_column.2, if_neg h.column_ne, h.scan_gap.2, h.readOperator?_eq]
  simp only [Option.bind_eq_bind, Option.bind_some, h.scan_space.2]
  rw [parseLiteral?_eq_some_iff.2 ⟨p.literal, rfl, h.value⟩, ← h.column_eq, ← h.operator_eq]
  rfl

omit h in
/-- No text has two spellings. -/
theorem unique {p' : Spelling} {c' : Comparison} (h : p.Spells c) (h' : p'.Spells c') (htext : p.text = p'.text) :
    p = p' := by
  have hcolumn : p.column = p'.column := by rw [← h.scan_column.1, htext, h'.scan_column.1]
  have hafter : p.gap ++ (p.operator.symbol.toList ++ p.right) = p'.gap ++ (p'.operator.symbol.toList ++ p'.right) := by
    rw [← h.scan_column.2, htext, h'.scan_column.2]
  have hgap : p.gap = p'.gap := by rw [← h.scan_gap.1, hafter, h'.scan_gap.1]
  have hread : some (p.operator, p.right) = some (p'.operator, p'.right) := by
    rw [← h.readOperator?_eq, ← h'.readOperator?_eq, ← h.scan_gap.2, hafter, h'.scan_gap.2]
  obtain ⟨hoperator, hright⟩ := Prod.mk.inj (Option.some.inj hread)
  have hspace : p.space = p'.space := by rw [← h.scan_space.1, hright, h'.scan_space.1]
  have hliteral : p.literal = p'.literal := by
    refine Literal.text_inj h.value h'.value ?_
    rw [← h.scan_space.2, hright, h'.scan_space.2]
  obtain ⟨column, gap, operator, space, literal⟩ := p
  simp only at hcolumn hgap hoperator hspace hliteral
  rw [hcolumn, hgap, hoperator, hspace, hliteral]

end Spelling.Spells

/-- What is read as a comparison is a spelling of it. -/
theorem Comparison.exists_spelling {text : List Char} {c : Comparison} (h : parse? text = some c) :
    ∃ p : Spelling, p.text = Text.trim text ∧ p.Spells c := by
  unfold parse? at h
  dsimp only at h
  generalize Text.trim text = cs at h ⊢
  split at h
  next => cases h
  next hcolumn =>
    simp only [Option.bind_eq_bind, Option.bind_eq_some_iff] at h
    obtain ⟨⟨o, rest⟩, hread, v, hvalue, hc⟩ := h
    obtain rfl := Option.some.inj hc
    obtain ⟨hsymbol, hends⟩ := readOperator?_eq_some_iff.1 hread
    obtain ⟨l, hl, hdenotes⟩ := parseLiteral?_eq_some_iff.1 hvalue
    have hrest : rest.takeWhile Text.isBlank ++ l.text = rest := by
      rw [hl]
      exact List.takeWhile_append_dropWhile
    let p : Spelling := ⟨cs.takeWhile isColumnChar, (cs.dropWhile isColumnChar).takeWhile Text.isBlank, o,
      rest.takeWhile Text.isBlank, l⟩
    have hright : p.right = rest := hrest
    refine ⟨p, ?_, ⟨hcolumn, fun d hd => List.mem_takeWhile_imp hd, fun d hd => List.mem_takeWhile_imp hd, ?_,
      fun d hd => List.mem_takeWhile_imp hd, ?_, rfl, rfl, hdenotes⟩⟩
    · rw [Spelling.text, hright, ← hsymbol, Text.trimStart, List.takeWhile_append_dropWhile,
        List.takeWhile_append_dropWhile]
    · rw [hright]
      exact hends
    · rw [show p.literal.text = Text.trimStart rest from hl]
      exact Text.head_trimStart rest

/-- A comparison as it is usually written, with a space on either side of the operator. -/
def Comparison.written (column : String) (operator : Operator) (literal : List Char) : List Char :=
  column.toList ++ ' ' :: (operator.symbol.toList ++ ' ' :: literal)

theorem Comparison.parse?_written {column : String} {literal : List Char} {v : Value} (operator : Operator)
    (hne : column ≠ "") (hcolumn : ∀ c ∈ column.toList, isColumnChar c = true)
    (hfirst : ∀ c ∈ literal.head?, Text.isBlank c = false)
    (hlast : ∀ c ∈ literal.getLast?, Text.isBlank c = false) (hvalue : parseLiteral? literal = some v) :
    parse? (written column operator literal) = some ⟨column, operator, v⟩ := by
  have hcolumn_ne : column.toList ≠ [] := mt String.toList_eq_nil_iff.1 hne
  have hliteral_ne : literal ≠ [] := by
    rintro rfl
    cases hvalue
  have htrim : Text.trim (written column operator literal) = written column operator literal := by
    refine Text.trim_of_ends (fun c hc => ?_) (fun c hc => ?_)
    · rw [written, List.head?_append_of_ne_nil _ hcolumn_ne] at hc
      exact isBlank_of_isColumnChar (hcolumn c (List.mem_of_mem_head? hc))
    · have hlead : written column operator literal =
          (column.toList ++ ' ' :: (operator.symbol.toList ++ [' '])) ++ literal := by simp [written]
      rw [hlead, List.getLast?_append_of_ne_nil _ hliteral_ne] at hc
      exact hlast c hc
  obtain ⟨l, rfl, hdenotes⟩ := parseLiteral?_eq_some_iff.1 hvalue
  let p : Spelling := ⟨column.toList, [' '], operator, [' '], l⟩
  have hspells : p.Spells ⟨column, operator, v⟩ :=
    { column_ne := hcolumn_ne
      column_chars := hcolumn
      gap_blank := Text.isBlank_of_mem_space
      symbol_ends := fun _ => by simp [p, Spelling.right]
      space_blank := Text.isBlank_of_mem_space
      literal_head := hfirst
      column_eq := String.ofList_toList.symm
      operator_eq := rfl
      value := hdenotes }
  refine hspells.parse?_eq ?_
  rw [htrim]
  simp [p, Spelling.text, Spelling.right, written]

/-- **Text is read as a comparison exactly when it is a spelling of one.** Without the white space
around it, it is a column, an operator and a literal that have their values in the comparison, and
there is one way only to part a text like this. -/
theorem Comparison.parse?_iff_spells (text : List Char) :
    (∀ c : Comparison, parse? text = some c ↔ ∃ p : Spelling, p.text = Text.trim text ∧ p.Spells c) ∧
      ∀ (p p' : Spelling) (c c' : Comparison), p.text = Text.trim text → p'.text = Text.trim text →
        p.Spells c → p'.Spells c' → p = p' ∧ c = c' := by
  refine ⟨fun c => ⟨exists_spelling, ?_⟩, fun p p' c c' hp hp' h h' => ⟨h.unique h' (hp.trans hp'.symm), ?_⟩⟩
  · rintro ⟨p, hp, h⟩
    exact h.parse?_eq hp
  · exact Option.some.inj ((h.parse?_eq hp).symm.trans (h'.parse?_eq hp'))

/-- The word of a truth value in mixed letter case, right behind its operator. -/
theorem Comparison.parse?_iff_spells_of_mixed_case :
    Comparison.parse? " ok!=tRuE ".toList = some ⟨"ok", .notEqual, .bool true⟩ := by
  let p : Spelling := ⟨"ok".toList, [], .notEqual, [], .bare "tRuE".toList⟩
  have htext : p.text = Text.trim " ok!=tRuE ".toList := by decide +kernel
  have hvalue : Literal.BareDenotes "tRuE".toList (.bool true) := .truth (by decide +kernel) (by decide)
  have hspells : p.Spells ⟨"ok", .notEqual, .bool true⟩ :=
    { column_ne := List.cons_ne_nil _ _
      column_chars := List.all_eq_true.1 (by decide +kernel)
      gap_blank := by simp [p]
      symbol_ends := by decide
      space_blank := by simp [p]
      literal_head := by simp [p, Literal.text]; decide
      column_eq := rfl
      operator_eq := rfl
      value := .bare (List.cons_ne_nil _ _) (by simp [isQuote]) hvalue }
  exact ((Comparison.parse?_iff_spells _).1 _).2 ⟨p, htext, hspells⟩

/-- Behind the longest operator the literal is what is left, and it may start with an equals sign. -/
example : Comparison.parse? " a.b>==1".toList = some ⟨"a.b", .greaterEqual, .text "=1"⟩ ∧
    Comparison.parse? "a == 1".toList = none := by decide +kernel

end RowQuery
