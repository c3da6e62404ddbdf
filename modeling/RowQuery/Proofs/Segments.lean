import RowQuery.Condition.Parsing
import RowQuery.Proofs.Literal
/-!
# Cutting text, one character at a time

The equations of `segmentsFrom`, and the places where nothing is cut: in a literal, before
anything but white space, and before white space with no keyword behind it. Where something
is cut, `connectiveAt?_eq_some_iff` says what the look-ahead has found: white space, a word
that names a connective, and white space.
-/

namespace RowQuery

/-! ## One character, or one cut -/

theorem segmentsFrom_nil (q : Quoting) : segmentsFrom q [] = ⟨[], []⟩ := by
  rw [segmentsFrom]

theorem segmentsFrom_cut {q : Quoting} {cs rest : List Char} {k : Connective}
    (h : cutAt? q cs = some (k, rest)) :
    segmentsFrom q cs = ⟨[], (k, (segmentsFrom .bare rest).first) :: (segmentsFrom .bare rest).rest⟩ := by
  cases cs with
  | nil => exact absurd (length_lt_of_cutAt? h) (by simp)
  | cons c tail =>
    rw [segmentsFrom]
    split
    next heq =>
      rw [h] at heq
      cases heq
      rfl
    next heq =>
      rw [h] at heq
      cases heq

theorem segmentsFrom_cons {q : Quoting} {c : Char} {tail : List Char} (h : cutAt? q (c :: tail) = none) :
    segmentsFrom q (c :: tail) =
      ⟨c :: (segmentsFrom (q.next c) tail).first, (segmentsFrom (q.next c) tail).rest⟩ := by
  rw [segmentsFrom]
  split
  next heq =>
    rw [h] at heq
    cases heq
  next => rfl

/-! ## Tokens -/

/-- A scan adds the tokens of what is left, where the first segment goes on behind what was read of it. -/
theorem tokensFrom_eq (q : Quoting) (cs read : List Char) (tokens : Array Condition.Token) :
    (tokensFrom q cs read tokens).toList =
      tokens.toList ++ Segments.tokens ⟨read.reverse ++ (segmentsFrom q cs).first, (segmentsFrom q cs).rest⟩ := by
  induction q, cs using segmentsFrom.induct generalizing read tokens with
  | case1 q =>
    rw [tokensFrom, segmentsFrom_nil]
    simp [Segments.tokens]
  | case2 q c tail k rest hcut _ ih =>
    rw [tokensFrom, segmentsFrom_cut hcut]
    split
    next heq =>
      rw [hcut] at heq
      cases heq
      rw [ih]
      simp [Segments.tokens]
    next heq =>
      rw [hcut] at heq
      cases heq
  | case3 q c tail hcut ih =>
    rw [tokensFrom, segmentsFrom_cons hcut]
    split
    next heq =>
      rw [hcut] at heq
      cases heq
    next =>
      rw [ih]
      simp [Segments.tokens]

/-- The tokens of a text are its segments, laid flat with the connectives between them. -/
theorem tokenize_eq (text : String) : tokenize text = (segments text).tokens := by
  rw [tokenize, tokensFrom_eq]
  rfl

namespace Condition

/-- The condition of segments, in their order. -/
def ofSegments (s : Segments) : Condition :=
  ⟨.ofSegment s.first :: s.rest.flatMap fun (k, segment) => [.connective k, .ofSegment segment]⟩

theorem parse_eq (text : String) (params : List Value) :
    parse text params = ofSegments (segments (bindParameters text params)) := by
  rw [parse, tokenize_eq, Segments.tokens, List.map_cons, List.map_flatMap]
  rfl

end Condition

/-! ## Where nothing is cut -/

theorem cutAt?_of_ne_bare {q : Quoting} (h : q ≠ .bare) (cs : List Char) : cutAt? q cs = none := by
  rw [cutAt?, if_neg h]

/-- A cut starts at white space. -/
theorem connectiveAt?_of_not_blank {c : Char} (h : Text.isBlank c = false) (cs : List Char) :
    connectiveAt? (c :: cs) = none := by
  simp [connectiveAt?, h]

theorem cutAt?_of_solid {q : Quoting} {c : Char} (h : q = .bare → Text.isBlank c = false) (cs : List Char) :
    cutAt? q (c :: cs) = none := by
  by_cases hq : q = .bare
  · rw [cutAt?, if_pos hq]
    exact connectiveAt?_of_not_blank (h hq) cs
  · exact cutAt?_of_ne_bare hq _

/-- Text without bare white space is not cut: it goes to the segment at hand as a whole. -/
theorem segmentsFrom_append {q : Quoting} {cs : List Char} (h : Quoting.Solid q cs) (rest : List Char) :
    segmentsFrom q (cs ++ rest) =
      ⟨cs ++ (segmentsFrom (q.after cs) rest).first, (segmentsFrom (q.after cs) rest).rest⟩ := by
  induction cs generalizing q with
  | nil => rfl
  | cons c cs ih =>
    rw [List.cons_append, segmentsFrom_cons (cutAt?_of_solid h.1 _), ih h.2]
    rfl

/-! ## The look-ahead at a space -/

/-- A space is no cut when neither white space nor a letter comes next. -/
theorem connectiveAt?_space {c : Char} (hblank : Text.isBlank c = false) (halpha : c.isAlpha = false)
    (cs : List Char) : connectiveAt? (' ' :: c :: cs) = none := by
  have hspace : Text.isBlank ' ' = true := by decide
  simp [connectiveAt?, hspace, Text.trimStart, hblank, halpha]

theorem isAlpha_of_isKeyword {keyword : String} {word : List Char}
    (hkeyword : ∀ c ∈ keyword.toList, c.isAlpha = true) (h : Text.isKeyword keyword word = true) :
    ∀ c ∈ word, c.isAlpha = true := by
  intro c hc
  rw [Text.isKeyword, beq_iff_eq, Text.upperAscii] at h
  rw [← Char.isAlpha_toUpper_eq_isAlpha]
  exact hkeyword _ (h ▸ List.mem_map_of_mem hc)

theorem Connective.isAlpha_of_mem_word (k : Connective) : ∀ c ∈ k.word.toList, c.isAlpha = true := by
  rw [← List.all_eq_true]
  cases k <;> decide

/-- A word names the connective it spells. -/
theorem Connective.ofWord?_of_isKeyword {k : Connective} {word : List Char}
    (h : Text.isKeyword k.word word = true) : Connective.ofWord? word = some k := by
  cases k with
  | and => exact if_pos h
  | or =>
    have hand : ¬Text.isKeyword "AND" word = true := by
      rw [Text.isKeyword, beq_iff_eq] at h ⊢
      rw [h]
      decide
    rw [ofWord?, if_neg hand]
    exact if_pos h

theorem Connective.isKeyword_of_ofWord? {k : Connective} {word : List Char} (h : ofWord? word = some k) :
    Text.isKeyword k.word word = true := by
  unfold ofWord? at h
  split at h
  next hand => exact Option.some.inj h ▸ hand
  next =>
    split at h
    next hor => exact Option.some.inj h ▸ hor
    next => cases h

/-- A connective is named by letters. -/
theorem Connective.isAlpha_of_ofWord? {k : Connective} {word : List Char} (h : ofWord? word = some k) :
    ∀ c ∈ word, c.isAlpha = true :=
  isAlpha_of_isKeyword k.isAlpha_of_mem_word (isKeyword_of_ofWord? h)

theorem Connective.ne_nil_of_ofWord? {k : Connective} {word : List Char} (h : ofWord? word = some k) :
    word ≠ [] := by
  rintro rfl
  cases h

/-! ## What a cut takes -/

theorem isAlpha_of_isBlank {c : Char} (h : Text.isBlank c = true) : c.isAlpha = false := by
  rw [Bool.eq_false_iff]
  intro halpha
  rw [Text.isBlank_of_isAlpha halpha] at h
  cases h

theorem Text.head_trimStart (cs : List Char) : ∀ c ∈ (trimStart cs).head?, isBlank c = false := by
  intro c hc
  have h := List.head?_dropWhile_not isBlank cs
  rw [show (cs.dropWhile isBlank).head? = some c from hc] at h
  exact h

theorem Text.trimStart_append_of_blank {lead : List Char} (h : ∀ c ∈ lead, isBlank c = true) (cs : List Char) :
    trimStart (lead ++ cs) = trimStart cs :=
  List.dropWhile_append_of_pos h

/-- A text starts with the word of a connective between white space, and `rest` is left behind. -/
inductive Cut (k : Connective) : List Char → List Char → Prop where
  | intro {lead word gap rest : List Char} (lead_ne : lead ≠ [])
      (lead_blank : ∀ c ∈ lead, Text.isBlank c = true) (named : Connective.ofWord? word = some k)
      (gap_ne : gap ≠ []) (gap_blank : ∀ c ∈ gap, Text.isBlank c = true)
      (rest_head : ∀ c ∈ rest.head?, Text.isBlank c = false) : Cut k (lead ++ (word ++ (gap ++ rest))) rest

theorem connectiveAt?_blank {c : Char} (h : Text.isBlank c = true) (cs : List Char) :
    connectiveAt? (c :: cs) =
      match (Text.trimStart cs).dropWhile Char.isAlpha with
      | [] => none
      | d :: rest =>
        if Text.isBlank d then
          (Connective.ofWord? ((Text.trimStart cs).takeWhile Char.isAlpha)).map fun k => (k, Text.trimStart rest)
        else none :=
  if_pos h

theorem connectiveAt?_eq_some_iff {k : Connective} {cs rest : List Char} :
    connectiveAt? cs = some (k, rest) ↔ Cut k cs rest := by
  constructor
  · intro h
    cases cs with
    | nil => cases h
    | cons c cs =>
      by_cases hc : Text.isBlank c = true
      · rw [connectiveAt?_blank hc] at h
        split at h
        next => cases h
        next d tail hdrop =>
          split at h
          next hd =>
            obtain ⟨k', hword, hrest⟩ := Option.map_eq_some_iff.1 h
            obtain ⟨rfl, rfl⟩ := Prod.mk.inj hrest
            -- The parts are the runs that were passed over, one after the other.
            have hbody : Text.trimStart cs = (Text.trimStart cs).takeWhile Char.isAlpha ++
                (d :: tail.takeWhile Text.isBlank ++ Text.trimStart tail) := by
              rw [List.cons_append, Text.trimStart, Text.trimStart, List.takeWhile_append_dropWhile]
              exact hdrop ▸ List.takeWhile_append_dropWhile.symm
            have htext : c :: cs = (c :: cs.takeWhile Text.isBlank) ++
                ((Text.trimStart cs).takeWhile Char.isAlpha ++
                  (d :: tail.takeWhile Text.isBlank ++ Text.trimStart tail)) := by
              rw [← hbody, List.cons_append, Text.trimStart, List.takeWhile_append_dropWhile]
            rw [htext]
            refine .intro (List.cons_ne_nil _ _) ?_ hword (List.cons_ne_nil _ _) ?_ (Text.head_trimStart tail)
            · exact List.forall_mem_cons.2 ⟨hc, fun e he => List.mem_takeWhile_imp he⟩
            · exact List.forall_mem_cons.2 ⟨hd, fun e he => List.mem_takeWhile_imp he⟩
          next => cases h
      · rw [connectiveAt?_of_not_blank (Bool.eq_false_iff.2 hc)] at h
        cases h
  · rintro ⟨lead_ne, lead_blank, named, gap_ne, gap_blank, rest_head⟩
    next lead word gap =>
    obtain ⟨c, lead, rfl⟩ := List.exists_cons_of_ne_nil lead_ne
    obtain ⟨d, gap, rfl⟩ := List.exists_cons_of_ne_nil gap_ne
    obtain ⟨hc, hlead⟩ := List.forall_mem_cons.1 lead_blank
    obtain ⟨hd, hgap⟩ := List.forall_mem_cons.1 gap_blank
    have halpha := Connective.isAlpha_of_ofWord? named
    have hstop : ∀ e ∈ (d :: gap ++ rest).head?, e.isAlpha = false := by
      simpa using isAlpha_of_isBlank hd
    obtain ⟨htake, hdrop⟩ := takeWhile_dropWhile_append halpha hstop
    have hbody : Text.trimStart (word ++ (d :: gap ++ rest)) = word ++ (d :: gap ++ rest) := by
      apply Text.trimStart_of_head
      intro e he
      rw [List.head?_append_of_ne_nil _ (Connective.ne_nil_of_ofWord? named)] at he
      exact Text.isBlank_of_isAlpha (halpha e (List.mem_of_mem_head? he))
    rw [List.cons_append, connectiveAt?_blank hc, Text.trimStart_append_of_blank hlead, hbody, htake, hdrop,
      List.cons_append]
    simp only [hd, if_true, named, Text.trimStart_append_of_blank hgap, Text.trimStart_of_head rest_head]
    rfl

/-- A connective behind white space that ends in a space, with a space behind it. -/
theorem Cut.of_word {k : Connective} {lead word : List Char} (hlead : ∀ c ∈ lead, Text.isBlank c = true)
    (hword : Connective.ofWord? word = some k) (rest : List Char) :
    Cut k (lead ++ ' ' :: (word ++ ' ' :: rest)) (Text.trimStart rest) := by
  have htext : lead ++ ' ' :: (word ++ ' ' :: rest) =
      (lead ++ [' ']) ++ (word ++ ((' ' :: rest.takeWhile Text.isBlank) ++ Text.trimStart rest)) := by
    simp [Text.trimStart]
  rw [htext]
  refine .intro (by simp) ?_ hword (List.cons_ne_nil _ _) ?_ (Text.head_trimStart rest)
  · exact List.forall_mem_append.2 ⟨hlead, by simp; decide⟩
  · exact List.forall_mem_cons.2 ⟨by decide, fun e he => List.mem_takeWhile_imp he⟩

/-- Between two spaces, the word of a connective is a cut. -/
theorem connectiveAt?_word {k : Connective} {word cs : List Char} (h : Text.isKeyword k.word word = true)
    (hcs : ∀ c ∈ cs.head?, Text.isBlank c = false) :
    connectiveAt? (' ' :: (word ++ ' ' :: cs)) = some (k, cs) := by
  have hcut : Cut k ([] ++ ' ' :: (word ++ ' ' :: cs)) (Text.trimStart cs) :=
    .of_word (by simp) (Connective.ofWord?_of_isKeyword h) cs
  rw [Text.trimStart_of_head hcs] at hcut
  exact connectiveAt?_eq_some_iff.2 hcut

end RowQuery
