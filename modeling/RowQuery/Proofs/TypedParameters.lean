import RowQuery.Proofs.Clauses
import RowQuery.Proofs.Lines
/-!
# Parameters that are typed in

A parameter may come in as text that carries no type, and the same text may stand in the
condition as it is. Both ways the comparison is the same one (`Comparison.typed_parameter_reads_as_bare`),
except for the two words of the truth values: these are truth values in a condition, and text as
a parameter.

Two functions give a text its type, `bareLiteral` in a condition and `Value.ofUntyped` for a
parameter, and the literal of the parameter is typed once more when it is read back.
-/

namespace RowQuery

/-- A word is no number, since a numeral starts with no letter. -/
theorem parseNumber_of_isKeyword {keyword : String} (hkeyword : ∀ c ∈ keyword.toList, c.isAlpha = true)
    {cs : List Char} (h : Text.isKeyword keyword cs = true) : parseNumber cs = none := by
  have halpha := isAlpha_of_isKeyword hkeyword h
  cases hnumber : parseNumber cs with
  | none => rfl
  | some x =>
    obtain ⟨n, hparse, -⟩ := parse?_of_parseNumber hnumber
    rw [Text.trim_of_forall fun c hc => Text.isBlank_of_isAlpha (halpha c hc)] at hparse
    obtain ⟨c, rest, rfl, hc⟩ := Numeral.head_of_parse? hparse
    rw [halpha c List.mem_cons_self] at hc
    cases hc

namespace Value

/-! ## A number, a truth value, or text -/

variable {text : String}

theorem ofUntyped_of_text (h : parseNumber text.toList = none) : ofUntyped text = .text text := by
  rw [ofUntyped, h]

/-- Text that is no number is read back from its literal as it is. -/
theorem reread_of_text (h : parseNumber text.toList = none) :
    ofUntyped (ofUntyped text).comparisonText = .text text := by
  rw [ofUntyped_of_text h]
  exact ofUntyped_of_text h

/-- A number is read back from the text it is written by, up to the sign of zero. -/
theorem reread_of_number {x : FiniteDouble} (h : parseNumber text.toList = some x) :
    ∃ y : FiniteDouble, ofUntyped (ofUntyped text).comparisonText = .number (.finite y) ∧ x.rank = y.rank := by
  have hvalue : ofUntyped text = .number (.finite x) := by rw [ofUntyped, h]
  obtain ⟨y, hread, hy⟩ := (Value.number (.finite x)).readsAs_ofUntyped
  rw [hvalue]
  exact ⟨y, hread, (FiniteDouble.normalizeZero_inj.1 hy).symm⟩

theorem bareLiteral_of_word {b : Bool} (h : Text.isKeyword (if b then "TRUE" else "FALSE") text.toList = true) :
    bareLiteral text.toList = .bool b ∧ ofUntyped (ofUntyped text).comparisonText = .text text := by
  have hkeyword : ∀ c ∈ (if b then "TRUE" else "FALSE").toList, c.isAlpha = true := by
    rw [← List.all_eq_true]
    cases b <;> decide
  have hnumber := parseNumber_of_isKeyword hkeyword h
  exact ⟨Literal.bareDenotes_iff.1 (.truth hnumber (Text.isKeyword_iff.1 h)), reread_of_text hnumber⟩

theorem bareLiteral_equal_reread
    (h : ∀ b : Bool, Text.isKeyword (if b then "TRUE" else "FALSE") text.toList = false) :
    (bareLiteral text.toList).equal (ofUntyped (ofUntyped text).comparisonText) = true := by
  cases hnumber : parseNumber text.toList with
  | some x =>
    obtain ⟨y, hread, hrank⟩ := reread_of_number hnumber
    rw [hread, Literal.bareDenotes_iff.1 (.number hnumber)]
    exact beq_iff_eq.2 hrank
  | none =>
    have hword : ∀ b : Bool, text.toList.map Char.toUpper ≠ (if b then "TRUE" else "FALSE").toList :=
      fun b => Text.isKeyword_iff.not.1 (Bool.eq_false_iff.1 (h b))
    rw [reread_of_text hnumber, Literal.bareDenotes_iff.1 (.text hnumber (hword true) (hword false)),
      String.ofList_toList]
    exact beq_self_eq_true text

end Value

namespace Comparison

/-- **A typed-in parameter means what the bare literal means.** A text without quotes and without
white space around it can stand in a comparison as it is, or as the literal of an untyped parameter.
Either is read as a comparison of the column by the operator. The two values are equal, as the two
zeros are, unless the text is the word of a truth value in any letter case: bare it is that truth
value, and as a parameter it stays text. -/
theorem typed_parameter_reads_as_bare {column : String} (operator : Operator) (text : String)
    (hcolumn_ne : column ≠ "") (hcolumn : ∀ c ∈ column.toList, isColumnChar c = true) (htext_ne : text ≠ "")
    (hplain : ∀ c ∈ text.toList, isQuote c = false) (htrim : Text.trim text.toList = text.toList) :
    ∃ bare typed : Value,
      parse? (written column operator text.toList) = some ⟨column, operator, bare⟩ ∧
        parse? (written column operator (Value.ofUntyped text).literal) = some ⟨column, operator, typed⟩ ∧
        (∀ b : Bool, Text.isKeyword (if b then "TRUE" else "FALSE") text.toList = true →
          bare = .bool b ∧ typed = .text text) ∧
        ((∀ b : Bool, Text.isKeyword (if b then "TRUE" else "FALSE") text.toList = false) →
          bare.equal typed = true) := by
  have hbare : parseLiteral? text.toList = some (bareLiteral text.toList) :=
    parseLiteral?_eq_some_iff.2 ⟨.bare text.toList, rfl,
      .bare (mt String.toList_eq_nil_iff.1 htext_ne) hplain (Literal.bareDenotes_iff.2 rfl)⟩
  have hfirst := Text.isBlank_head_trim text.toList
  have hlast := Text.isBlank_last_trim text.toList
  rw [htrim] at hfirst hlast
  have hlit := (Value.ofUntyped text).isLiteral_literal
  refine ⟨bareLiteral text.toList, .ofUntyped (Value.ofUntyped text).comparisonText,
    parse?_written operator hcolumn_ne hcolumn hfirst hlast hbare,
    parse?_written operator hcolumn_ne hcolumn hlit.isBlank_head hlit.ends (Value.parseLiteral?_literal _),
    fun b => Value.bareLiteral_of_word, Value.bareLiteral_equal_reread⟩

/-- Zero comes back without its sign, and the word of a truth value comes back as text. -/
theorem typed_parameter_reads_as_bare_of_zero_and_word :
    (∃ bare typed : Value,
      parse? (written "min.rate" .less "-0e3".toList) = some ⟨"min.rate", .less, bare⟩ ∧
        parse? (written "min.rate" .less (Value.ofUntyped "-0e3").literal) = some ⟨"min.rate", .less, typed⟩ ∧
        bare.equal typed = true) ∧
      parse? (written "ok" .equal "fAlse".toList) = some ⟨"ok", .equal, .bool false⟩ ∧
      parse? (written "ok" .equal (Value.ofUntyped "fAlse").literal) = some ⟨"ok", .equal, .text "fAlse"⟩ := by
  have hcolumn : ∀ c ∈ "min.rate".toList, isColumnChar c = true := List.all_eq_true.1 (by decide +kernel)
  have hflag : ∀ c ∈ "ok".toList, isColumnChar c = true := List.all_eq_true.1 (by decide +kernel)
  obtain ⟨bare, typed, hbare, htyped, -, hequal⟩ := typed_parameter_reads_as_bare .less "-0e3"
    (by decide) hcolumn (by decide) (by simp [isQuote]) (by decide +kernel)
  obtain ⟨word, param, hword, hparam, htruth, -⟩ := typed_parameter_reads_as_bare .equal "fAlse"
    (by decide) hflag (by decide) (by simp [isQuote]) (by decide +kernel)
  obtain ⟨rfl, rfl⟩ := htruth false (by decide)
  refine ⟨⟨bare, typed, hbare, htyped, hequal ?_⟩, hword, hparam⟩
  intro b
  cases b <;> decide

end Comparison

end RowQuery
