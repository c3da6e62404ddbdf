import RowQuery.Pipeline
import RowQuery.Proofs.Cuts
/-!
# Conditions compose at the level of text

A condition that is continued behind AND or OR with one more comparison filters by both
conditions, or by either. The text is followed through the passes: it is cut where it was cut
before and at the new connective (`segmentsFrom_continued`), its segments take the parameters
they took before (`bindTexts_append`), and the new comparison is joined last, since results
are joined from left to right (`joinResults_append`).
-/

namespace RowQuery

/-! ## A condition by its segments -/

namespace Term

theorem comparison?_ofSegment (text : List Char) : (ofSegment text).comparison? = Comparison.parse? text := by
  unfold ofSegment
  cases Comparison.parse? text <;> rfl

theorem connective?_ofSegment (text : List Char) : (ofSegment text).connective? = none := by
  unfold ofSegment
  cases Comparison.parse? text <;> rfl

theorem comparison?_connective (k : Connective) : (connective k).comparison? = none := rfl

theorem connective?_connective (k : Connective) : (connective k).connective? = some k := rfl

theorem isSome_parse?_of_invalid? {text : List Char} (h : (ofSegment text).invalid? = none) :
    (Comparison.parse? text).isSome = true := by
  unfold ofSegment at h
  cases hparse : Comparison.parse? text with
  | some c => rfl
  | none =>
    rw [hparse] at h
    cases h

end Term

namespace Condition

theorem terms_ofSegments (s : Segments) :
    (ofSegments s).terms =
      .ofSegment s.first :: s.rest.flatMap fun x => [.connective x.1, .ofSegment x.2] := rfl

theorem comparisons_ofSegments (s : Segments) :
    (ofSegments s).comparisons = s.texts.filterMap Comparison.parse? := by
  have hrest : (s.rest.flatMap fun x => [Term.connective x.1, .ofSegment x.2]).filterMap Term.comparison? =
      (s.rest.map (·.2)).filterMap Comparison.parse? := by
    rw [List.filterMap_flatMap, List.filterMap_map, List.filterMap_eq_flatMap_toList]
    refine List.flatMap_congr fun x _ => ?_
    simp only [List.filterMap_cons, List.filterMap_nil, Term.comparison?_connective, Term.comparison?_ofSegment]
    cases h : Comparison.parse? x.2 <;> simp [h]
  rw [comparisons, terms_ofSegments, List.filterMap_cons, hrest, Term.comparison?_ofSegment]
  rfl

theorem connectives_ofSegments (s : Segments) : (ofSegments s).connectives = s.connectives := by
  have hrest : (s.rest.flatMap fun x => [Term.connective x.1, .ofSegment x.2]).filterMap Term.connective? =
      s.rest.map (·.1) := by
    rw [List.filterMap_flatMap, ← List.flatMap_pure_eq_map]
    refine List.flatMap_congr fun x _ => ?_
    simp only [List.filterMap_cons, List.filterMap_nil, Term.connective?_connective, Term.connective?_ofSegment]
    rfl
  rw [connectives, terms_ofSegments, List.filterMap_cons, hrest, Term.connective?_ofSegment]
  rfl

/-- Without an invalid segment, every segment is a comparison. -/
theorem isSome_of_invalidTexts {s : Segments} (h : (ofSegments s).invalidTexts = []) :
    ∀ text ∈ s.texts, (Comparison.parse? text).isSome = true := by
  rw [invalidTexts, terms_ofSegments, List.filterMap_eq_nil_iff] at h
  intro text htext
  refine Term.isSome_parse?_of_invalid? (h _ ?_)
  rw [Segments.texts, List.mem_cons, List.mem_map] at htext
  rw [List.mem_cons, List.mem_flatMap]
  obtain rfl | ⟨x, hx, rfl⟩ := htext
  · exact .inl rfl
  · exact .inr ⟨x, hx, by simp⟩

theorem comparisons_parse (text : String) (params : List Value) :
    (parse text params).comparisons =
      (bindTexts (segments text).texts params).filterMap Comparison.parse? := by
  rw [parse_eq, comparisons_ofSegments, segments, bindParameters, String.toList_ofList,
    texts_segmentsFrom_bindFrom, segments]

theorem connectives_parse (text : String) (params : List Value) :
    (parse text params).connectives = (segments text).connectives := by
  rw [parse_eq, connectives_ofSegments, segments, bindParameters, String.toList_ofList]
  exact (segmentsFrom_bindFrom .bare text.toList params).connectives

/-- Binding leaves an empty segment empty. -/
theorem nil_mem_bindTexts {texts : List (List Char)} (h : [] ∈ texts) (params : List Value) :
    [] ∈ bindTexts texts params := by
  induction texts generalizing params with
  | nil => exact absurd h List.not_mem_nil
  | cons cs texts ih =>
    rcases List.mem_cons.1 h with rfl | h
    · exact List.mem_cons_self
    · exact List.mem_cons_of_mem _ (ih h _)

/-- A condition without invalid segments is cut into segments that are not empty. -/
theorem ne_nil_of_invalidTexts {text : String} {params : List Value}
    (h : (parse text params).invalidTexts = []) : ∀ x ∈ (segmentsFrom .bare text.toList).rest, x.2 ≠ [] := by
  have hparse : ∀ segment ∈ bindTexts (segments text).texts params,
      (Comparison.parse? segment).isSome = true := by
    rw [segments, ← texts_segmentsFrom_bindFrom]
    rw [parse_eq, segments, bindParameters, String.toList_ofList] at h
    exact isSome_of_invalidTexts h
  rintro ⟨k, segment⟩ hmem rfl
  -- Bound or not, an empty segment is no comparison.
  have hmem' : [] ∈ (segments text).texts := List.mem_cons_of_mem _ (List.mem_map_of_mem (f := (·.2)) hmem)
  have hnil : (Comparison.parse? []).isSome = true := hparse [] (nil_mem_bindTexts hmem' params)
  exact absurd hnil (by decide)

end Condition

/-! ## White space around a comparison -/

theorem Comparison.parse?_congr {a b : List Char} (h : Text.trim a = Text.trim b) : parse? a = parse? b := by
  unfold parse?
  rw [h]

theorem Text.trimEnd_append_of_blank (cs : List Char) {blank : List Char} (h : ∀ c ∈ blank, isBlank c = true) :
    trimEnd (cs ++ blank) = trimEnd cs := by
  rw [trimEnd, List.reverse_append, List.dropWhile_append_of_pos (by simpa using h), trimEnd]

theorem Text.trim_append_of_blank (cs : List Char) {blank : List Char} (h : ∀ c ∈ blank, isBlank c = true) :
    trim (cs ++ blank) = trim cs := by
  by_cases hcs : trimStart cs = []
  · have hall := List.dropWhile_eq_nil_iff.1 hcs
    rw [trim, trim, trimStart_append_of_blank hall, hcs]
    exact congrArg trimEnd (List.dropWhile_eq_nil_iff.2 h)
  · have hne : ¬(cs.dropWhile isBlank).isEmpty = true := mt List.isEmpty_iff.1 hcs
    rw [trim, trimStart, List.dropWhile_append, if_neg hne]
    exact trimEnd_append_of_blank _ h

theorem Text.trim_trimStart (cs : List Char) : trim (trimStart cs) = trim cs := by
  rw [trim, trimStart_of_head (head_trimStart cs), trim]

/-! ## Parameters of appended texts -/

theorem placeholders_append_of_inert {lead : List Char} (h : Inert lead) (cs : List Char) :
    placeholders (lead ++ cs) = placeholders cs := by
  induction lead with
  | nil => rfl
  | cons c lead ih =>
    obtain ⟨⟨hquote, hmark⟩, hlead⟩ := inert_cons.1 h
    have hbare : Quoting.bare.next c = .bare := Quoting.next_bare hquote
    rw [placeholders, List.cons_append, placeholdersFrom, if_neg fun hc => hmark hc.2, hbare]
    exact ih hlead

/-- A text without a placeholder takes no parameter, and stays as it is. -/
theorem bindFrom_of_not_mem (q : Quoting) {cs : List Char} (h : '?' ∉ cs) (params : List Value) :
    bindFrom q cs params = cs ∧ placeholdersFrom q cs = 0 := by
  induction cs generalizing q with
  | nil => exact ⟨bindFrom_nil _ _, rfl⟩
  | cons c cs ih =>
    obtain ⟨hc, hcs⟩ := not_or.1 (mt List.mem_cons.2 h)
    have hmark : ¬(q = .bare ∧ c = '?') := fun hmark => hc hmark.2.symm
    obtain ⟨hbind, hcount⟩ := ih (q.next c) hcs
    rw [bindFrom_cons hmark, placeholdersFrom, if_neg hmark, hbind]
    exact ⟨rfl, hcount⟩

theorem bindFrom_append_blank (q : Quoting) (cs : List Char) {blank : List Char}
    (h : ∀ c ∈ blank, Text.isBlank c = true) (params : List Value) :
    bindFrom q (cs ++ blank) params = bindFrom q cs params ++ blank ∧
      placeholdersFrom q (cs ++ blank) = placeholdersFrom q cs := by
  induction cs generalizing q params with
  | nil =>
    have hmark : '?' ∉ blank := fun hmem => (inert_of_isBlank h _ hmem).2 rfl
    rw [List.nil_append, bindFrom_nil, List.nil_append, placeholdersFrom]
    exact bindFrom_of_not_mem q hmark params
  | cons c cs ih =>
    rw [List.cons_append]
    by_cases hc : q = .bare ∧ c = '?'
    · obtain ⟨rfl, rfl⟩ := hc
      obtain ⟨hbind, hcount⟩ := ih .bare params.tail
      rw [bindFrom_placeholder, bindFrom_placeholder, hbind, List.append_assoc, placeholdersFrom,
        placeholdersFrom, hcount]
      exact ⟨rfl, rfl⟩
    · obtain ⟨hbind, hcount⟩ := ih (q.next c) params
      rw [bindFrom_cons hc, bindFrom_cons hc, hbind, placeholdersFrom, placeholdersFrom, if_neg hc,
        if_neg hc, hcount]
      exact ⟨rfl, rfl⟩

/-- Parameters behind those that a text takes are left out. -/
theorem bindFrom_surplus {q : Quoting} {cs : List Char} {params : List Value}
    (h : placeholdersFrom q cs ≤ params.length) (more : List Value) :
    bindFrom q cs (params ++ more) = bindFrom q cs params := by
  induction cs generalizing q params with
  | nil => rfl
  | cons c cs ih =>
    by_cases hc : q = .bare ∧ c = '?'
    · obtain ⟨rfl, rfl⟩ := hc
      rw [placeholdersFrom, if_pos ⟨rfl, rfl⟩] at h
      cases params with
      | nil => exact absurd h (by simp)
      | cons v params =>
        rw [bindFrom_placeholder, bindFrom_placeholder, List.cons_append, List.tail_cons, List.tail_cons,
          ih (Nat.le_of_succ_le_succ h)]
        rfl
    · rw [placeholdersFrom, if_neg hc] at h
      rw [bindFrom_cons hc, bindFrom_cons hc, ih h]

theorem bindTexts_append (texts more : List (List Char)) (params : List Value) :
    bindTexts (texts ++ more) params =
      bindTexts texts params ++ bindTexts more (params.drop (texts.map placeholders).sum) := by
  induction texts generalizing params with
  | nil => rfl
  | cons cs texts ih =>
    rw [List.cons_append, bindTexts, ih, bindTexts, List.drop_drop, List.map_cons, List.sum_cons,
      List.cons_append]

theorem bindTexts_surplus {texts : List (List Char)} {params : List Value}
    (h : (texts.map placeholders).sum ≤ params.length) (more : List Value) :
    bindTexts texts (params ++ more) = bindTexts texts params := by
  induction texts generalizing params with
  | nil => rfl
  | cons cs texts ih =>
    rw [List.map_cons, List.sum_cons] at h
    have hcs : placeholders cs ≤ params.length := Nat.le_of_add_right_le h
    have hrest : (texts.map placeholders).sum ≤ (params.drop (placeholders cs)).length := by
      rw [List.length_drop]
      omega
    rw [bindTexts, bindTexts, bindFrom_surplus hcs, List.drop_append_of_le_length hcs, ih hrest]

/-- Cutting loses no placeholder. -/
theorem placeholders_segmentsFrom (q : Quoting) (cs : List Char) :
    placeholdersFrom q (segmentsFrom q cs).first +
      ((segmentsFrom q cs).rest.map fun x => placeholders x.2).sum = placeholdersFrom q cs := by
  induction q, cs using segmentsFrom.induct with
  | case1 q =>
    rw [segmentsFrom_nil]
    rfl
  | case2 q c tail k rest hcut _ ih =>
    obtain ⟨rfl, hcut'⟩ := cut_of_cutAt? hcut
    obtain ⟨lead, htext, hlead⟩ := hcut'.taken
    rw [segmentsFrom_cut hcut, List.map_cons, List.sum_cons, placeholdersFrom, Nat.zero_add]
    refine ih.trans ?_
    rw [htext]
    exact (placeholders_append_of_inert hlead rest).symm
  | case3 q c tail hcut ih =>
    rw [segmentsFrom_cons hcut, placeholdersFrom, placeholdersFrom]
    by_cases hc : q = .bare ∧ c = '?'
    · obtain ⟨rfl, rfl⟩ := hc
      rw [if_pos ⟨rfl, rfl⟩, if_pos ⟨rfl, rfl⟩, Nat.add_right_comm]
      exact congrArg (· + 1) ih
    · rw [if_neg hc, if_neg hc]
      exact ih

theorem sum_placeholders_segments (text : String) :
    ((segments text).texts.map placeholders).sum = placeholders text.toList := by
  rw [Segments.texts, List.map_cons, List.sum_cons, List.map_map]
  exact placeholders_segmentsFrom .bare text.toList

/-! ## The comparisons of a text that goes on -/

theorem Segments.Continued.comparisons {k : Connective} {s t joined : Segments} (h : s.Continued k t joined)
    {params : List Value} (hcount : (s.texts.map placeholders).sum = params.length) (more : List Value) :
    (bindTexts joined.texts (params ++ more)).filterMap Comparison.parse? =
      (bindTexts s.texts params).filterMap Comparison.parse? ++
        (bindTexts t.texts more).filterMap Comparison.parse? := by
  obtain ⟨front, last, blank, hblank, hs, hjoined⟩ := h.texts
  have hlast : placeholders (last ++ blank) = placeholders last :=
    (bindFrom_append_blank .bare last hblank []).2
  have hsum : ((front ++ [last]).map placeholders).sum = params.length := by
    rw [← hcount, hs]
    simp [hlast]
  rw [hjoined, hs, List.append_cons, bindTexts_append, bindTexts_surplus (Nat.le_of_eq hsum), hsum,
    List.drop_left, List.filterMap_append, bindTexts_append, bindTexts_append]
  congr 1
  rw [List.filterMap_append, List.filterMap_append]
  congr 1
  -- The last segment may have lost white space, which a comparison does not see.
  have hparse : ∀ params, Comparison.parse? (bindFrom .bare (last ++ blank) params) =
      Comparison.parse? (bindFrom .bare last params) := by
    intro params
    rw [(bindFrom_append_blank .bare last hblank params).1]
    exact Comparison.parse?_congr (Text.trim_append_of_blank _ hblank)
  simp only [bindTexts, List.filterMap_cons, hparse]

theorem first_of_rest_eq_nil {q : Quoting} {cs : List Char} (h : (segmentsFrom q cs).rest = []) :
    (segmentsFrom q cs).first = cs := by
  induction q, cs using segmentsFrom.induct with
  | case1 q => rw [segmentsFrom_nil]
  | case2 q c tail k rest hcut _ _ =>
    rw [segmentsFrom_cut hcut] at h
    cases h
  | case3 q c tail hcut ih =>
    rw [segmentsFrom_cons hcut] at h ⊢
    exact congrArg (c :: ·) (ih h)

/-- A text that is not cut is not cut without the white space in front of it. -/
theorem rest_segmentsFrom_trimStart {cs : List Char} (h : (segmentsFrom .bare cs).rest = []) :
    (segmentsFrom .bare (Text.trimStart cs)).rest = [] := by
  induction cs with
  | nil => exact h
  | cons c cs ih =>
    by_cases hc : Text.isBlank c = true
    · cases hcut : cutAt? .bare (c :: cs) with
      | some cut =>
        rw [segmentsFrom_cut hcut] at h
        cases h
      | none =>
        have hinert : Inert [c] := inert_of_isBlank (by simpa using hc)
        have hbare : Quoting.bare.next c = .bare := Quoting.next_bare (hinert c (by simp)).1
        rw [segmentsFrom_cons hcut, hbare] at h
        rw [Text.trimStart, List.dropWhile_cons_of_pos hc]
        exact ih h
    · rwa [Text.trimStart, List.dropWhile_cons_of_neg hc]

/-- A text that spells a single comparison spells it without the white space in front of it. -/
theorem comparisons_of_single {text : String} {params : List Value} {c : Comparison}
    (h : (Condition.parse text params).terms = [.comparison c]) :
    (segmentsFrom .bare (Text.trimStart text.toList)).connectives = [] ∧
      (bindTexts (segmentsFrom .bare (Text.trimStart text.toList)).texts params).filterMap
        Comparison.parse? = [c] := by
  have hparse : (Condition.parse text params).comparisons = [c] := by
    rw [Condition.comparisons, h]
    rfl
  have hconnectives : (segments text).connectives = [] := by
    rw [← Condition.connectives_parse text params, Condition.connectives, h]
    rfl
  have hrest : (segmentsFrom .bare text.toList).rest = [] := List.map_eq_nil_iff.1 hconnectives
  have hrest' := rest_segmentsFrom_trimStart hrest
  rw [Condition.comparisons_parse, segments, Segments.texts, hrest, first_of_rest_eq_nil hrest] at hparse
  rw [Segments.connectives, Segments.texts, hrest', first_of_rest_eq_nil hrest']
  refine ⟨rfl, ?_⟩
  have hbind : bindFrom .bare (Text.trimStart text.toList) params =
      Text.trimStart (bindFrom .bare text.toList params) :=
    (dropWhile_bindFrom ordinary_isBlank _ _).symm
  rw [← hparse]
  simp only [List.map_nil, bindTexts, List.filterMap_cons, hbind,
    Comparison.parse?_congr (Text.trim_trimStart _)]

/-! ## Evaluation -/

/-- One more connective and result are joined last. -/
theorem joinResults_append (result : Bool) {results : List Bool} {connectives : List Connective}
    (h : results.length = connectives.length) (k : Connective) (next : Bool) :
    joinResults result (results ++ [next]) (connectives ++ [k]) =
      k.join (joinResults result results connectives) next := by
  induction results generalizing result connectives with
  | nil =>
    obtain rfl := List.length_eq_zero_iff.1 h.symm
    rfl
  | cons first results ih =>
    cases connectives with
    | nil => cases h
    | cons k' connectives => exact ih _ (Nat.succ.inj h)

namespace Condition

/-- A condition with one more comparison is the condition joined with the comparison. -/
theorem holds_of_append {c joined : Condition} {k : Connective} {comparison : Comparison}
    (hcomparisons : joined.comparisons = c.comparisons ++ [comparison])
    (hconnectives : joined.connectives = c.connectives ++ [k])
    (hcount : c.comparisons.length = c.connectives.length + 1) (r : Record) :
    joined.holds r = k.join (c.holds r) (comparison.holds r) := by
  rw [holds, holds, hcomparisons, hconnectives, List.map_append]
  cases hresults : c.comparisons.map (·.holds r) with
  | nil =>
    rw [List.map_eq_nil_iff.1 hresults] at hcount
    cases hcount
  | cons first results =>
    have hlength : results.length = c.connectives.length := by
      have h := congrArg List.length hresults
      rw [List.length_map, List.length_cons, hcount] at h
      exact (Nat.succ.inj h).symm
    exact joinResults_append first hlength k _

theorem holds_of_single {c : Condition} {comparison : Comparison} (h : c.terms = [.comparison comparison])
    (r : Record) : c.holds r = comparison.holds r := by
  rw [holds, comparisons, h]
  rfl

/-- A condition that goes on behind a connective with one comparison more. -/
theorem holds_parse_append {a b : String} {ps qs : List Value} {comparison : Comparison}
    (hclosed : Quoting.bare.after a.toList = .bare) (hkeyword : endsInKeyword a.toList = false)
    (hplaceholders : placeholders a.toList = ps.length)
    (hcount : (parse a ps).comparisons.length = (parse a ps).connectives.length + 1)
    (hvalid : (parse a ps).invalidTexts = []) (hsingle : (parse b qs).terms = [.comparison comparison])
    {k : Connective} {text : String} (htext : text.toList = a.toList ++ ' ' :: (k.word.toList ++ ' ' :: b.toList))
    (r : Record) : (parse text (ps ++ qs)).holds r = k.join ((parse a ps).holds r) ((parse b qs).holds r) := by
  have hword : Connective.ofWord? k.word.toList = some k := by cases k <;> decide
  have hcontinued := segmentsFrom_continued hword b.toList hclosed hkeyword (ne_nil_of_invalidTexts hvalid)
  rw [← htext] at hcontinued
  obtain ⟨hconnectives, hcomparisons⟩ := comparisons_of_single hsingle
  rw [holds_of_single hsingle]
  refine holds_of_append ?_ ?_ hcount r
  · have hsum : ((segments a).texts.map placeholders).sum = ps.length := by
      rw [sum_placeholders_segments, hplaceholders]
    rw [comparisons_parse, comparisons_parse, ← hcomparisons]
    exact hcontinued.comparisons hsum qs
  · rw [connectives_parse, connectives_parse]
    exact hcontinued.connectives.trans (by rw [hconnectives]; rfl)

end Condition

/-- **Conditions compose from left to right.** A condition that ends outside a literal and in no
keyword, takes all of its parameters and has no invalid segment may go on with a further
comparison. Behind AND that filters what the condition has kept; behind OR it keeps, in their
order, the records that either of the two keeps. -/
theorem conditions_compose (p : Pipeline) {a b : String} {ps qs : List Value} {comparison : Comparison}
    (hclosed : Quoting.bare.after a.toList = .bare) (hkeyword : endsInKeyword a.toList = false)
    (hplaceholders : placeholders a.toList = ps.length)
    (hcount : (Condition.parse a ps).comparisons.length = (Condition.parse a ps).connectives.length + 1)
    (hvalid : (Condition.parse a ps).invalidTexts = [])
    (hsingle : (Condition.parse b qs).terms = [.comparison comparison]) :
    p.filter (a ++ " AND " ++ b) (ps ++ qs) = (p.filter a ps).filter b qs ∧
      (p.filter (a ++ " OR " ++ b) (ps ++ qs)).current =
        p.current.filter fun r => r ∈ (p.filter a ps).current ∨ r ∈ (p.filter b qs).current := by
  have hand : (a ++ " AND " ++ b).toList =
      a.toList ++ ' ' :: (Connective.and.word.toList ++ ' ' :: b.toList) := by
    simp [Connective.word]
  have hor : (a ++ " OR " ++ b).toList =
      a.toList ++ ' ' :: (Connective.or.word.toList ++ ' ' :: b.toList) := by
    simp [Connective.word]
  constructor
  · have hcurrent : (p.filter (a ++ " AND " ++ b) (ps ++ qs)).current = ((p.filter a ps).filter b qs).current := by
      show p.current.filter _ = (p.current.filter _).filter _
      rw [List.filter_filter]
      refine List.filter_congr fun r _ => ?_
      rw [Condition.holds_parse_append hclosed hkeyword hplaceholders hcount hvalid hsingle hand r]
      exact Bool.and_comm _ _
    exact congrArg (fun current => { p with current }) hcurrent
  · show p.current.filter _ = p.current.filter _
    refine List.filter_congr fun r hr => ?_
    rw [Condition.holds_parse_append hclosed hkeyword hplaceholders hcount hvalid hsingle hor r,
      Bool.eq_iff_iff, decide_eq_true_iff]
    show (_ || _) = true ↔ r ∈ p.current.filter _ ∨ r ∈ p.current.filter _
    rw [Bool.or_eq_true, List.mem_filter, List.mem_filter, and_iff_right hr, and_iff_right hr]

/-- A keyword and a placeholder in a literal, white space at the end, a parameter with a quote,
and a column named by a keyword. -/
theorem conditions_compose_around_literals :
    let rows : Dataset := [⟨[("a", .text "x AND ?"), ("and", .number (.finite .one))]⟩,
      ⟨[("b", .text "it's"), ("and", .text "2.5")]⟩, ⟨[("b", .text "it's")]⟩, ⟨[("and", .text "7")]⟩]
    let p := Pipeline.ofDataset rows .standard
    (p.filter ("a = 'x AND ?' or b = ?  " ++ " AND " ++ "and > ?") ([.text "it's"] ++ [.bool true])).current =
        [⟨[("b", .text "it's"), ("and", .text "2.5")]⟩] ∧
      (p.filter ("a = 'x AND ?' or b = ?  " ++ " OR " ++ "and > ?") ([.text "it's"] ++ [.bool true])).current =
        rows := by
  intro rows p
  obtain ⟨hand, hor⟩ := @conditions_compose p "a = 'x AND ?' or b = ?  " "and > ?" [.text "it's"] [.bool true]
    ⟨"and", .greater, .number (.finite .one)⟩ (by decide +kernel) (by decide +kernel) (by decide +kernel)
    (by decide +kernel) (by decide +kernel) (by decide +kernel)
  rw [hand, hor]
  exact ⟨by decide +kernel, by decide +kernel⟩

end RowQuery
