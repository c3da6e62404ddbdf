import RowQuery.Proofs.Lines
/-!
# Bars in a `where` line

A `where` line is cut at its last bar, whether the bar stands in a literal or not
(`parse_where`). A condition that is cut in a literal ends in text that is no comparison,
since a comparison closes the literals it opens (`Comparison.after_of_parse?`).
-/

namespace RowQuery

/-! ## Comparisons close their literals -/

theorem Literal.Denotes.closed {l : Literal} {v : Value} (h : l.Denotes v) : Closed l.text := by
  cases h with
  | quoted is_quote between => exact .literal is_quote between .nil
  | bare _ plain _ => exact Quoting.after_eq_bare_iff.1 (Quoting.after_bare plain)

theorem after_trimStart (cs : List Char) : Quoting.bare.after (Text.trimStart cs) = Quoting.bare.after cs := by
  have hblank : ∀ c ∈ cs.takeWhile Text.isBlank, Text.isBlank c = true := fun c hc => List.mem_takeWhile_imp hc
  conv_rhs => rw [← List.takeWhile_append_dropWhile (p := Text.isBlank) (l := cs)]
  rw [Quoting.after_append, (inert_of_isBlank hblank).after_eq_bare]
  rfl

/-- Trimming leaves text in a literal if it ends in one. -/
theorem after_of_after_trim {cs : List Char} (h : Quoting.bare.after (Text.trim cs) = .bare) :
    Quoting.bare.after cs = .bare := by
  obtain ⟨blank, hblank, hcs⟩ := Text.trimEnd_parts (Text.trimStart cs)
  rw [← after_trimStart, hcs, Quoting.after_append, ← Text.trim, h]
  exact (inert_of_isBlank hblank).after_eq_bare

/-- What is read as a comparison ends outside literals: only its literal has quotes. -/
theorem Comparison.after_of_parse? {text : List Char} {c : Comparison} (h : parse? text = some c) :
    Quoting.bare.after text = .bare := by
  obtain ⟨p, htext, hp⟩ := exists_spelling h
  refine after_of_after_trim ?_
  have hcolumn : Quoting.bare.after p.column = .bare :=
    Quoting.after_bare fun d hd => isQuote_of_isColumnChar (hp.column_chars d hd)
  rw [← htext, Spelling.text, Spelling.right, Quoting.after_append, hcolumn, Quoting.after_append,
    (inert_of_isBlank hp.gap_blank).after_eq_bare, Quoting.after_append, p.operator.inert_symbol.after_eq_bare,
    Quoting.after_append, (inert_of_isBlank hp.space_blank).after_eq_bare]
  exact Quoting.after_of_closed hp.value.closed

/-! ## The end of a condition -/

/-- Binding does not change where a text ends, since literals are closed. -/
theorem after_bindFrom (q : Quoting) (cs : List Char) (params : List Value) :
    q.after (bindFrom q cs params) = q.after cs := by
  induction cs generalizing q params with
  | nil => rfl
  | cons c cs ih =>
    by_cases hc : q = .bare ∧ c = '?'
    · obtain ⟨rfl, rfl⟩ := hc
      rw [bindFrom_placeholder, Quoting.after_append, (isLiteral_literalOfNext params).closed]
      exact ih .bare params.tail
    · rw [bindFrom_cons hc]
      exact ih (q.next c) params

/-- Where the last segment ends that is cut from a text which starts at the place `q`. -/
def Segments.place (q : Quoting) (s : Segments) : Quoting :=
  match s.rest.getLast? with
  | none => q.after s.first
  | some (_, text) => Quoting.bare.after text

theorem Segments.place_cut (k : Connective) (s : Segments) (q : Quoting) :
    place q ⟨[], (k, s.first) :: s.rest⟩ = place .bare s := by
  unfold place
  rw [List.getLast?_cons]
  cases h : s.rest.getLast? <;> rfl

/-- The last segment ends where the text ends. -/
theorem place_segmentsFrom (q : Quoting) (cs : List Char) : (segmentsFrom q cs).place q = q.after cs := by
  induction q, cs using segmentsFrom.induct with
  | case1 q => rw [segmentsFrom_nil]; rfl
  | case2 q c tail k rest hcut _ ih =>
    obtain ⟨rfl, hcut'⟩ := cut_of_cutAt? hcut
    obtain ⟨lead, htext, hlead⟩ := hcut'.taken
    rw [segmentsFrom_cut hcut, Segments.place_cut, ih, htext, Quoting.after_append,
      hlead.after_eq_bare]
  | case3 q c tail hcut ih =>
    rw [segmentsFrom_cons hcut, Quoting.after_cons, ← ih]
    rfl

/-- A condition that ends in a literal ends in a segment that is no comparison. -/
theorem Condition.getLast_parse {text : String} (h : Quoting.bare.after text.toList ≠ .bare)
    (params : List Value) : ∃ segment, (parse text params).terms.getLast? = some (.invalid segment) := by
  have hplace := place_segmentsFrom .bare (bindFrom .bare text.toList params)
  rw [after_bindFrom] at hplace
  -- A segment that ends in a literal is kept as it is.
  have hinvalid : ∀ segment, Quoting.bare.after segment ≠ .bare →
      Term.ofSegment segment = .invalid (String.ofList segment) := by
    intro segment hopen
    cases hparse : Comparison.parse? segment with
    | some c => exact absurd (Comparison.after_of_parse? hparse) hopen
    | none => rw [Term.ofSegment, hparse]
  rw [parse_eq, segments, bindParameters, String.toList_ofList, terms_ofSegments]
  generalize segmentsFrom .bare (bindFrom .bare text.toList params) = s at hplace ⊢
  rw [← hplace, Segments.place] at h
  rcases List.eq_nil_or_concat s.rest with hrest | ⟨front, ⟨k, segment⟩, hrest⟩
  · rw [hrest] at h ⊢
    exact ⟨_, congrArg some (hinvalid s.first h)⟩
  · rw [List.concat_eq_append] at hrest
    rw [hrest, List.getLast?_concat] at h
    refine ⟨String.ofList segment, ?_⟩
    rw [hrest, ← hinvalid segment h, List.flatMap_append, ← List.cons_append, List.getLast?_append]
    rfl

/-! ## The line -/

namespace Shell

/-- The line of a condition. -/
def whereLine (condition : String) : String := "where " ++ condition

theorem Command.parse_whereLine (condition : String) :
    parse (whereLine condition) = .ok (parseFilter (Text.trim condition.toList)) := by
  have hline : (whereLine condition).toList = "where".toList ++ ' ' :: condition.toList := by
    simp [whereLine]
  have hword : IsCommandWord "where" := by decide +kernel
  rw [parse_line hword hline]
  rfl

/-- White space around the condition and around the parameters is lost. -/
theorem Command.parseFilter_of_bar (before : List Char) {after : List Char} (hafter : '|' ∉ after) :
    parseFilter (Text.trim (before ++ '|' :: after)) =
      .filter (String.ofList (Text.trim before)) ((Argument.commaList after).map .ofUntyped) := by
  have hbar : '|' ∉ Text.trimEnd after := by
    obtain ⟨blank, -, hparts⟩ := Text.trimEnd_parts after
    exact fun hmem => hafter (hparts ▸ List.mem_append_left blank hmem)
  rw [Text.trim_append_cons (by decide), parseFilter, Text.splitLast?_append hbar]
  simp only [Text.trim_trimStart, Argument.commaList_trimEnd]

theorem Command.parse_whereLine_of_bar {condition : String} {before after : List Char}
    (hcondition : condition.toList = before ++ '|' :: after) (hafter : '|' ∉ after) :
    parse (whereLine condition) =
      .ok (.filter (String.ofList (Text.trim before)) ((Argument.commaList after).map .ofUntyped)) := by
  rw [parse_whereLine, hcondition, parseFilter_of_bar before hafter]

/-- **A `where` line is cut at its last bar.** Without a bar the condition is the whole text. What
stands behind the last bar is taken for parameters, and if the bar stands in a literal, the
condition ends in text that is no comparison. -/
theorem parse_where {condition : String} (htrim : Text.trim condition.toList = condition.toList) :
    (Command.parse (whereLine condition) = .ok (.filter condition []) ↔ '|' ∉ condition.toList) ∧
      ∀ before after : List Char, condition.toList = before ++ '|' :: after → '|' ∉ after →
        Command.parse (whereLine condition) =
            .ok (.filter (String.ofList (Text.trim before)) ((Argument.commaList after).map .ofUntyped)) ∧
          (Quoting.bare.after before ≠ .bare → ∀ params : List Value, ∃ segment,
            (Condition.parse (String.ofList (Text.trim before)) params).terms.getLast? =
              some (.invalid segment)) := by
  refine ⟨⟨fun hparse hbar => ?_, fun hbar => ?_⟩, fun before after hcondition hafter => ⟨?_, ?_⟩⟩
  · obtain ⟨before, after, hcondition, hafter⟩ := Text.exists_last_of_mem hbar
    rw [Command.parse_whereLine_of_bar hcondition hafter, Except.ok.injEq, Command.filter.injEq, List.map_eq_nil_iff] at hparse
    exact Argument.commaList_ne_nil after hparse.2
  · rw [Command.parse_whereLine, htrim, Command.parseFilter, Text.splitLast?_eq_none hbar]
    exact congrArg (fun text => Except.ok (Command.filter text [])) (String.ofList_toList)
  · exact Command.parse_whereLine_of_bar hcondition hafter
  · intro hopen params
    refine Condition.getLast_parse ?_ params
    rw [String.toList_ofList]
    exact mt after_of_after_trim hopen

/-- A bar in a literal with white space and an escaped quote, behind another comparison. -/
theorem parse_where_in_literal :
    Text.trim "k = 1 or a = 'x\\' | y'".toList = "k = 1 or a = 'x\\' | y'".toList ∧
      Command.parse (whereLine "k = 1 or a = 'x\\' | y'") =
        .ok (.filter "k = 1 or a = 'x\\'" [.text "y'"]) ∧
      ∃ segment, (Condition.parse "k = 1 or a = 'x\\'" [.text "y'"]).terms.getLast? = some (.invalid segment) := by
  have htrim : Text.trim "k = 1 or a = 'x\\' | y'".toList = "k = 1 or a = 'x\\' | y'".toList := by decide +kernel
  obtain ⟨-, hcut⟩ := parse_where htrim
  obtain ⟨hparse, hopen⟩ := hcut "k = 1 or a = 'x\\' ".toList " y'".toList (by decide +kernel) (by decide +kernel)
  have hfront : String.ofList (Text.trim "k = 1 or a = 'x\\' ".toList) = "k = 1 or a = 'x\\'" := by decide +kernel
  have hparams : (Argument.commaList " y'".toList).map Value.ofUntyped = [.text "y'"] := by decide +kernel
  rw [hfront, hparams] at hparse
  rw [hfront] at hopen
  exact ⟨htrim, hparse, hopen (by decide +kernel) _⟩

/-- A condition whose bars all stand in literals is cut all the same. -/
theorem parse_where_cuts_literals :
    ¬ ∀ condition : String, condition ≠ "" → Text.trim condition.toList = condition.toList →
      (∀ before after : List Char, condition.toList = before ++ '|' :: after →
        Quoting.bare.after before ≠ .bare) →
      Command.parse (whereLine condition) = .ok (.filter condition []) := by
  intro h
  have hparse : Command.parse (whereLine "a = 'x|y'") = .ok (.filter "a = 'x" [.text "y'"]) := by decide +kernel
  have hquoted : ∀ before after : List Char, "a = 'x|y'".toList = before ++ '|' :: after →
      Quoting.bare.after before ≠ .bare := by
    intro before after hcondition
    -- There is one bar only, so the text is cut there.
    have hcount := congrArg (List.count '|') hcondition
    rw [List.count_append, List.count_cons_self, show List.count '|' "a = 'x|y'".toList = 1 by decide] at hcount
    have hafter : '|' ∉ after := List.count_eq_zero.1 (by omega)
    have hsplit := Text.splitLast?_append hafter before
    rw [← hcondition, show Text.splitLast? '|' "a = 'x|y'".toList = some ("a = 'x".toList, "y'".toList) by decide,
      Option.some.injEq, Prod.mk.injEq] at hsplit
    rw [← hsplit.1]
    decide
  have hclaim := h "a = 'x|y'" (by decide) (by decide) hquoted
  rw [hparse] at hclaim
  exact absurd hclaim (by decide)

end Shell

end RowQuery
