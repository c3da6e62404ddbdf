import RowQuery.Proofs.Segments
/-!
# Parameters keep to their segments

Binding and cutting commute. `segmentsFrom_bindFrom`: a bound text has the connectives of the
condition it was made from, and each of its segments is the bound segment. A parameter can
therefore not add a comparison, end one early or join two, whatever it holds.

The proof goes along the cuts of the condition. Both passes follow `Quoting`, and a literal
stands where a placeholder stood as a block without bare white space (`IsLiteral`), so the
look-ahead for a keyword sees the same in front of it.
-/

namespace RowQuery

/-! ## Binding, one character at a time -/

theorem bindFrom_nil (q : Quoting) (params : List Value) : bindFrom q [] params = [] := rfl

theorem bindFrom_placeholder (cs : List Char) (params : List Value) :
    bindFrom .bare ('?' :: cs) params = literalOfNext params ++ bindFrom .bare cs params.tail := by
  rw [bindFrom, if_pos ⟨rfl, rfl⟩]

theorem bindFrom_cons {q : Quoting} {c : Char} (h : ¬(q = .bare ∧ c = '?')) (cs : List Char)
    (params : List Value) : bindFrom q (c :: cs) params = c :: bindFrom (q.next c) cs params := by
  rw [bindFrom, if_neg h]

theorem isLiteral_literalOfNext (params : List Value) : IsLiteral (literalOfNext params) :=
  Value.isLiteral_literal _

/-- The placeholders of a text that starts at the place `q`. -/
def placeholdersFrom : Quoting → List Char → Nat
  | _, [] => 0
  | q, c :: cs =>
    if q = .bare ∧ c = '?' then placeholdersFrom .bare cs + 1 else placeholdersFrom (q.next c) cs

/-- How many parameters a text takes. -/
def placeholders (cs : List Char) : Nat := placeholdersFrom .bare cs

/-! ## The look-ahead for a keyword -/

/-- A class of characters that neither a placeholder nor a quote nor the first character of a
literal is in, such as white space and letters. -/
structure Ordinary (p : Char → Bool) : Prop where
  placeholder : p '?' = false
  quote : ∀ c, isQuote c = true → p c = false
  literal : ∀ {cs}, IsLiteral cs → ∃ c rest, cs = c :: rest ∧ p c = false

theorem ordinary_isBlank : Ordinary Text.isBlank where
  placeholder := by decide
  quote _ h := isBlank_of_isQuote h
  literal h := by
    obtain ⟨c, rest, hcs, -, hblank⟩ := h.head
    exact ⟨c, rest, hcs, hblank⟩

theorem ordinary_isAlpha : Ordinary Char.isAlpha where
  placeholder := by decide
  quote c h := by rcases isQuote_iff.1 h with rfl | rfl <;> decide
  literal h := h.starts

section
variable {p : Char → Bool} (hp : Ordinary p)

include hp

theorem bindFrom_of_ordinary {c : Char} (h : p c = true) (cs : List Char) (params : List Value) :
    bindFrom .bare (c :: cs) params = c :: bindFrom .bare cs params := by
  have hquote : isQuote c = false := by
    rw [Bool.eq_false_iff]
    intro hc
    rw [hp.quote c hc] at h
    cases h
  rw [bindFrom_cons, Quoting.next_bare hquote]
  rintro ⟨-, rfl⟩
  rw [hp.placeholder] at h
  cases h

/-- Outside the class, a text and the bound text both start with no character of the class. -/
theorem bindFrom_stops {c : Char} (h : p c = false) (cs : List Char) (params : List Value) :
    ∃ d rest, bindFrom .bare (c :: cs) params = d :: rest ∧ p d = false := by
  by_cases hc : c = '?'
  · subst hc
    obtain ⟨d, rest, hlit, hd⟩ := hp.literal (isLiteral_literalOfNext params)
    rw [bindFrom_placeholder, hlit]
    exact ⟨d, _, rfl, hd⟩
  · rw [bindFrom_cons (by simp [hc])]
    exact ⟨c, _, rfl, h⟩

theorem takeWhile_bindFrom (cs : List Char) (params : List Value) :
    (bindFrom .bare cs params).takeWhile p = cs.takeWhile p := by
  induction cs with
  | nil => rfl
  | cons c cs ih =>
    by_cases h : p c = true
    · rw [bindFrom_of_ordinary hp h, List.takeWhile_cons_of_pos h, List.takeWhile_cons_of_pos h, ih]
    · obtain ⟨d, rest, hbound, hd⟩ := bindFrom_stops hp (Bool.eq_false_iff.2 h) cs params
      rw [hbound, List.takeWhile_cons_of_neg h, List.takeWhile_cons_of_neg (by simp [hd])]

theorem dropWhile_bindFrom (cs : List Char) (params : List Value) :
    (bindFrom .bare cs params).dropWhile p = bindFrom .bare (cs.dropWhile p) params := by
  induction cs with
  | nil => rfl
  | cons c cs ih =>
    by_cases h : p c = true
    · rw [bindFrom_of_ordinary hp h, List.dropWhile_cons_of_pos h, List.dropWhile_cons_of_pos h, ih]
    · obtain ⟨d, rest, hbound, hd⟩ := bindFrom_stops hp (Bool.eq_false_iff.2 h) cs params
      rw [hbound, List.dropWhile_cons_of_neg h, List.dropWhile_cons_of_neg (by simp [hd]), ← hbound]

end

/-- Binding does not change whether a connective comes next, nor which one. -/
theorem connectiveAt?_bindFrom (cs : List Char) (params : List Value) :
    connectiveAt? (bindFrom .bare cs params) =
      (connectiveAt? cs).map fun (k, rest) => (k, bindFrom .bare rest params) := by
  cases cs with
  | nil => rfl
  | cons c cs =>
    by_cases hc : Text.isBlank c = true
    · rw [bindFrom_of_ordinary ordinary_isBlank hc]
      simp only [connectiveAt?, hc, if_true, Text.trimStart, dropWhile_bindFrom ordinary_isBlank,
        dropWhile_bindFrom ordinary_isAlpha, takeWhile_bindFrom ordinary_isAlpha]
      -- The word is the same. It is a connective if white space comes next, on either side.
      generalize (cs.dropWhile Text.isBlank).takeWhile Char.isAlpha = word
      cases (cs.dropWhile Text.isBlank).dropWhile Char.isAlpha with
      | nil => rfl
      | cons d tail =>
        by_cases hd : Text.isBlank d = true
        · rw [bindFrom_of_ordinary ordinary_isBlank hd]
          simp only [hd, if_true, dropWhile_bindFrom ordinary_isBlank, Option.map_map]
          rfl
        · obtain ⟨e, rest, hbound, he⟩ := bindFrom_stops ordinary_isBlank (Bool.eq_false_iff.2 hd) tail params
          simp [hbound, he, hd]
    · obtain ⟨d, rest, hbound, hd⟩ := bindFrom_stops ordinary_isBlank (Bool.eq_false_iff.2 hc) cs params
      rw [hbound, connectiveAt?_of_not_blank hd, connectiveAt?_of_not_blank (Bool.eq_false_iff.2 hc)]
      rfl

theorem cutAt?_bindFrom (q : Quoting) (cs : List Char) (params : List Value) :
    cutAt? q (bindFrom q cs params) = (cutAt? q cs).map fun (k, rest) => (k, bindFrom .bare rest params) := by
  by_cases hq : q = .bare
  · subst hq
    rw [cutAt?, cutAt?, if_pos rfl, if_pos rfl]
    exact connectiveAt?_bindFrom cs params
  · rw [cutAt?_of_ne_bare hq, cutAt?_of_ne_bare hq]
    rfl

/-! ## Binding segment by segment -/

/-- Binds texts one after the other, each with the parameters the ones before have left. -/
def bindTexts : List (List Char) → List Value → List (List Char)
  | [], _ => []
  | cs :: texts, params => bindFrom .bare cs params :: bindTexts texts (params.drop (placeholders cs))

namespace Segments

def connectives (s : Segments) : List Connective := s.rest.map (·.1)

/-- The segments alone, in order. -/
def texts (s : Segments) : List (List Char) := s.first :: s.rest.map (·.2)

/-- The bound segments, where the first starts at the place `q`. -/
structure BoundFrom (q : Quoting) (params : List Value) (s bound : Segments) : Prop where
  connectives : bound.connectives = s.connectives
  first : bound.first = bindFrom q s.first params
  rest : bound.rest.map (·.2) = bindTexts (s.rest.map (·.2)) (params.drop (placeholdersFrom q s.first))

end Segments

/-- Cutting a bound text gives the bound segments. -/
theorem segmentsFrom_bindFrom (q : Quoting) (cs : List Char) (params : List Value) :
    (segmentsFrom q cs).BoundFrom q params (segmentsFrom q (bindFrom q cs params)) := by
  -- By length, since a cut takes a whole word and the white space around it.
  induction h : cs.length using Nat.strong_induction_on generalizing q cs params with
  | _ n ih =>
    cases hcut : cutAt? q cs with
    | some cut =>
      obtain ⟨k, rest⟩ := cut
      have hbound : cutAt? q (bindFrom q cs params) = some (k, bindFrom .bare rest params) := by
        rw [cutAt?_bindFrom, hcut]
        rfl
      have hrest := ih rest.length (h ▸ length_lt_of_cutAt? hcut) .bare rest params rfl
      rw [segmentsFrom_cut hcut, segmentsFrom_cut hbound]
      refine ⟨congrArg (k :: ·) hrest.connectives, rfl, ?_⟩
      show (segmentsFrom .bare (bindFrom .bare rest params)).first :: _ = bindFrom .bare _ params :: _
      rw [hrest.first]
      exact congrArg _ hrest.rest
    | none =>
      cases cs with
      | nil =>
        rw [bindFrom_nil, segmentsFrom_nil]
        exact ⟨rfl, rfl, rfl⟩
      | cons c tail =>
        have hlt : tail.length < n := by rw [← h]; exact Nat.lt_succ_self _
        by_cases hc : q = .bare ∧ c = '?'
        -- A literal is passed as a whole, and the scan is outside literals again behind it.
        · obtain ⟨rfl, rfl⟩ := hc
          have hlit := isLiteral_literalOfNext params
          have htail := ih tail.length hlt .bare tail params.tail rfl
          rw [bindFrom_placeholder, segmentsFrom_append hlit.solid, hlit.closed, segmentsFrom_cons hcut]
          refine ⟨htail.connectives, ?_, ?_⟩
          · rw [bindFrom_placeholder]
            exact congrArg _ htail.first
          · have hcount : ∀ t, placeholdersFrom .bare ('?' :: t) = placeholdersFrom .bare t + 1 :=
              fun t => if_pos ⟨rfl, rfl⟩
            rw [hcount, ← List.drop_tail]
            exact htail.rest
        · have hcut' : cutAt? q (c :: bindFrom (q.next c) tail params) = none := by
            rw [← bindFrom_cons hc, cutAt?_bindFrom, hcut]
            rfl
          have htail := ih tail.length hlt (q.next c) tail params rfl
          rw [bindFrom_cons hc, segmentsFrom_cons hcut, segmentsFrom_cons hcut']
          refine ⟨htail.connectives, ?_, ?_⟩
          · rw [bindFrom_cons hc]
            exact congrArg _ htail.first
          · have hcount : ∀ t, placeholdersFrom q (c :: t) = placeholdersFrom (q.next c) t :=
              fun t => if_neg hc
            rw [hcount]
            exact htail.rest

theorem getElem?_bindTexts (texts : List (List Char)) (params : List Value) (i : Nat) :
    (bindTexts texts params)[i]? =
      texts[i]?.map fun cs => bindFrom .bare cs (params.drop ((texts.take i).map placeholders).sum) := by
  induction texts generalizing params i with
  | nil => simp [bindTexts]
  | cons cs texts ih =>
    cases i with
    | zero => simp [bindTexts]
    | succ i => simp [bindTexts, ih, List.drop_drop]

theorem texts_segmentsFrom_bindFrom (cs : List Char) (params : List Value) :
    (segmentsFrom .bare (bindFrom .bare cs params)).texts = bindTexts (segmentsFrom .bare cs).texts params := by
  have h := segmentsFrom_bindFrom .bare cs params
  simp only [Segments.texts, bindTexts, h.first, h.rest, placeholders]

/-- **Parameters never change the structure of a condition.** The bound text has the same
connectives, and its segments are the segments of the condition, each bound to the
parameters that the placeholders of the segments before it have left. The segments and the
connectives of a text are its tokens. -/
theorem segments_bindParameters (condition : String) (params : List Value) :
    (∀ text, tokenize text = (segments text).tokens) ∧
      (segments (bindParameters condition params)).connectives = (segments condition).connectives ∧
      ∀ i : Nat, (segments (bindParameters condition params)).texts[i]? =
        (segments condition).texts[i]?.map fun segment =>
          (bindParameters (String.ofList segment)
            (params.drop (((segments condition).texts.take i).map placeholders).sum)).toList := by
  refine ⟨tokenize_eq, ?_⟩
  simp only [segments, bindParameters, String.toList_ofList]
  refine ⟨(segmentsFrom_bindFrom .bare condition.toList params).connectives, fun i => ?_⟩
  rw [texts_segmentsFrom_bindFrom]
  exact getElem?_bindTexts _ _ _

end RowQuery
