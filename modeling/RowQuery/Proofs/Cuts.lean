import RowQuery.Proofs.Clauses
/-!
# What continuing a text changes

What happens to a text that is continued behind a connective (`segmentsFrom_continued`). It
keeps its cuts, and only the white space at its end goes over to the new one, unless it ends
in a literal or in a keyword that nothing follows.
-/

namespace RowQuery

/-! ## Cuts in a longer text -/

/-- White space is neither a quote nor a placeholder. -/
theorem inert_of_isBlank {cs : List Char} (h : ∀ c ∈ cs, Text.isBlank c = true) : Inert cs := by
  intro c hc
  have hblank := h c hc
  constructor
  · rw [Bool.eq_false_iff]
    intro hquote
    rw [isBlank_of_isQuote hquote] at hblank
    cases hblank
  · rintro rfl
    exact absurd hblank (by decide)

namespace Cut

variable {k : Connective} {cs rest : List Char}

/-- What a cut takes away holds no quote and no placeholder. -/
theorem taken (h : Cut k cs rest) : ∃ lead, cs = lead ++ rest ∧ Inert lead := by
  obtain ⟨-, lead_blank, named, -, gap_blank, -⟩ := h
  next lead word gap =>
  refine ⟨lead ++ (word ++ gap), by simp [List.append_assoc], ?_⟩
  exact inert_append.2 ⟨inert_of_isBlank lead_blank,
    inert_append.2 ⟨inert_of_isAlpha (Connective.isAlpha_of_ofWord? named), inert_of_isBlank gap_blank⟩⟩

/-- A cut stays where it is in a longer text, if something is left behind it. -/
theorem append (h : Cut k cs rest) (hrest : rest ≠ []) (more : List Char) : Cut k (cs ++ more) (rest ++ more) := by
  obtain ⟨lead_ne, lead_blank, named, gap_ne, gap_blank, rest_head⟩ := h
  next lead word gap =>
  have hhead : ∀ c ∈ (rest ++ more).head?, Text.isBlank c = false := by
    rw [List.head?_append_of_ne_nil _ hrest]
    exact rest_head
  simpa [List.append_assoc] using Cut.intro lead_ne lead_blank named gap_ne gap_blank hhead

end Cut

theorem segmentsFrom_of_cut {k : Connective} {cs rest : List Char} (h : Cut k cs rest) :
    segmentsFrom .bare cs =
      ⟨[], (k, (segmentsFrom .bare rest).first) :: (segmentsFrom .bare rest).rest⟩ :=
  segmentsFrom_cut (connectiveAt?_eq_some_iff.2 h)

/-- Text is cut outside literals only. -/
theorem cut_of_cutAt? {q : Quoting} {k : Connective} {cs rest : List Char} (h : cutAt? q cs = some (k, rest)) :
    q = .bare ∧ Cut k cs rest := by
  unfold cutAt? at h
  split at h
  next hq => exact ⟨hq, connectiveAt?_eq_some_iff.1 h⟩
  next => cases h

/-! ## Text that ends in white space or in a keyword -/

/-- A text ends in white space and a word that names a connective. -/
def endsInKeyword : List Char → Bool
  | [] => false
  | c :: cs => (Text.isBlank c && (Connective.ofWord? cs).isSome) || endsInKeyword cs

theorem endsInKeyword_tail {c : Char} {cs : List Char} (h : endsInKeyword (c :: cs) = false) :
    endsInKeyword cs = false := by
  rw [endsInKeyword, Bool.or_eq_false_iff] at h
  exact h.2

theorem endsInKeyword_of_append {cs ds : List Char} (h : endsInKeyword (cs ++ ds) = false) :
    endsInKeyword ds = false := by
  induction cs with
  | nil => exact h
  | cons c cs ih => exact ih (endsInKeyword_tail h)

/-- The last word of a text that does not end in a keyword is none, if white space is before it. -/
theorem ofWord?_trimStart {c : Char} {cs : List Char} (hc : Text.isBlank c = true)
    (h : endsInKeyword (c :: cs) = false) : Connective.ofWord? (Text.trimStart cs) = none := by
  induction cs generalizing c with
  | nil => rfl
  | cons d cs ih =>
    rw [endsInKeyword, Bool.or_eq_false_iff, hc, Bool.true_and, Option.isSome_eq_false_iff,
      Option.isNone_iff_eq_none] at h
    by_cases hd : Text.isBlank d = true
    · rw [Text.trimStart, List.dropWhile_cons_of_pos hd]
      exact ih hd h.2
    · rw [Text.trimStart, List.dropWhile_cons_of_neg hd]
      exact h.1

/-- White space alone is not cut. -/
theorem segmentsFrom_blank {cs : List Char} (h : ∀ c ∈ cs, Text.isBlank c = true) :
    segmentsFrom .bare cs = ⟨cs, []⟩ := by
  induction cs with
  | nil => exact segmentsFrom_nil _
  | cons c cs ih =>
    obtain ⟨hc, hcs⟩ := List.forall_mem_cons.1 h
    have hnone : cutAt? .bare (c :: cs) = none := by
      rw [cutAt?, if_pos rfl, connectiveAt?_blank hc, Text.trimStart, List.dropWhile_eq_nil_iff.2 hcs]
      rfl
    rw [segmentsFrom_cons hnone, Quoting.next_bare ((inert_of_isBlank h) c (by simp)).1, ih hcs]

/-- Where nothing was cut because what follows is no keyword, nothing is cut in a longer text,
if it goes on with white space. -/
theorem connectiveAt?_append_of_none {c : Char} {cs : List Char} (hc : Text.isBlank c = true)
    (hbody : Text.trimStart cs ≠ []) (hnone : connectiveAt? (c :: cs) = none)
    (hkeyword : endsInKeyword (c :: cs) = false) {b : Char} (hb : Text.isBlank b = true) (more : List Char) :
    connectiveAt? (c :: cs ++ b :: more) = none := by
  have hword := ofWord?_trimStart hc hkeyword
  have htrim : Text.trimStart (cs ++ b :: more) = Text.trimStart cs ++ b :: more := by
    have hne : ¬(cs.dropWhile Text.isBlank).isEmpty = true := mt List.isEmpty_iff.1 hbody
    rw [Text.trimStart, List.dropWhile_append, if_neg hne]
    rfl
  rw [connectiveAt?_blank hc] at hnone
  rw [List.cons_append, connectiveAt?_blank hc, htrim]
  generalize Text.trimStart cs = body at hbody hnone hword ⊢
  by_cases hall : ∀ d ∈ body, d.isAlpha = true
  -- The word runs to the end of the text, so it is the last one.
  · have hstop : ∀ d ∈ (b :: more).head?, d.isAlpha = false := by
      simpa using isAlpha_of_isBlank hb
    obtain ⟨htake, hdrop⟩ := takeWhile_dropWhile_append hall hstop
    rw [htake, hdrop]
    simp only [hb, if_true, hword]
    rfl
  · have hdrop : body.dropWhile Char.isAlpha ≠ [] := fun h => hall (List.dropWhile_eq_nil_iff.1 h)
    obtain ⟨d, rest, hd⟩ := List.exists_cons_of_ne_nil hdrop
    have htake : (body ++ b :: more).takeWhile Char.isAlpha = body.takeWhile Char.isAlpha := by
      rw [List.takeWhile_append, if_neg]
      intro hlen
      refine hall (List.takeWhile_eq_self_iff.1 ?_)
      exact (List.takeWhile_prefix _).eq_of_length hlen
    rw [List.dropWhile_append, if_neg (by simp [hd]), htake, hd, List.cons_append]
    rw [hd] at hnone
    by_cases hdb : Text.isBlank d = true
    · simp only [hdb, if_true, Option.map_eq_none_iff] at hnone ⊢
      exact hnone
    · simp [hdb]

/-- Where nothing was cut, nothing is cut in a longer text, unless all that was left was white
space outside a literal. -/
theorem cutAt?_append_of_none {q : Quoting} {c : Char} {cs : List Char} (hnone : cutAt? q (c :: cs) = none)
    (hkeyword : endsInKeyword (c :: cs) = false) (hblank : ¬(q = .bare ∧ ∀ d ∈ c :: cs, Text.isBlank d = true))
    {b : Char} (hb : Text.isBlank b = true) (more : List Char) : cutAt? q (c :: cs ++ b :: more) = none := by
  by_cases hq : q = .bare
  · by_cases hc : Text.isBlank c = true
    · have hbody : Text.trimStart cs ≠ [] := fun hnil =>
        hblank ⟨hq, List.forall_mem_cons.2 ⟨hc, List.dropWhile_eq_nil_iff.1 hnil⟩⟩
      rw [cutAt?, if_pos hq] at hnone ⊢
      exact connectiveAt?_append_of_none hc hbody hnone hkeyword hb more
    · exact cutAt?_of_solid (fun _ => Bool.eq_false_iff.2 hc) _
  · exact cutAt?_of_ne_bare hq _

/-! ## Text that goes on behind a connective -/

namespace Segments

/-- Segments of a text that goes on with connective `k` and the segments `t`: those of the text,
where the last may lose white space at its end, and `t` behind them. -/
structure Continued (k : Connective) (s t joined : Segments) : Prop where
  connectives : joined.connectives = s.connectives ++ k :: t.connectives
  texts : ∃ front last blank, (∀ c ∈ blank, Text.isBlank c = true) ∧ s.texts = front ++ [last ++ blank] ∧
    joined.texts = front ++ last :: t.texts

namespace Continued

variable {k : Connective} {s t joined : Segments}

theorem cons (h : Continued k s t joined) (c : Char) :
    Continued k ⟨c :: s.first, s.rest⟩ t ⟨c :: joined.first, joined.rest⟩ := by
  refine ⟨h.connectives, ?_⟩
  obtain ⟨front, last, blank, hblank, hs, hjoined⟩ := h.texts
  unfold Segments.texts at hs hjoined ⊢
  cases front with
  | nil =>
    rw [List.nil_append, List.cons.injEq] at hs hjoined
    exact ⟨[], c :: last, blank, hblank, by simp [hs], by simp [hjoined]⟩
  | cons text front =>
    rw [List.cons_append, List.cons.injEq] at hs hjoined
    exact ⟨(c :: text) :: front, last, blank, hblank, by simp [hs], by simp [hjoined]⟩

theorem cut (h : Continued k s t joined) (k' : Connective) :
    Continued k ⟨[], (k', s.first) :: s.rest⟩ t ⟨[], (k', joined.first) :: joined.rest⟩ := by
  refine ⟨congrArg (k' :: ·) h.connectives, ?_⟩
  obtain ⟨front, last, blank, hblank, hs, hjoined⟩ := h.texts
  exact ⟨[] :: front, last, blank, hblank, congrArg ([] :: ·) hs, congrArg ([] :: ·) hjoined⟩

end Continued

end Segments

/-- White space at the end of a text goes to the connective behind it. -/
theorem segmentsFrom_continued_of_blank {k : Connective} {word : List Char}
    (hword : Connective.ofWord? word = some k) (rest : List Char) {cs : List Char}
    (h : ∀ c ∈ cs, Text.isBlank c = true) :
    (segmentsFrom .bare cs).Continued k (segmentsFrom .bare (Text.trimStart rest))
      (segmentsFrom .bare (cs ++ ' ' :: (word ++ ' ' :: rest))) := by
  rw [segmentsFrom_blank h, segmentsFrom_of_cut (.of_word h hword rest)]
  exact ⟨rfl, [], [], cs, h, rfl, rfl⟩

/-- A text that ends outside a literal and in no keyword keeps its segments when it goes on
behind a connective. No segment of it may be empty, or it ends in a connective itself. -/
theorem segmentsFrom_continued {k : Connective} {word : List Char} (hword : Connective.ofWord? word = some k)
    (rest : List Char) {q : Quoting} {cs : List Char} (hclosed : q.after cs = .bare)
    (hkeyword : endsInKeyword cs = false) (hfull : ∀ x ∈ (segmentsFrom q cs).rest, x.2 ≠ []) :
    (segmentsFrom q cs).Continued k (segmentsFrom .bare (Text.trimStart rest))
      (segmentsFrom q (cs ++ ' ' :: (word ++ ' ' :: rest))) := by
  -- Along the cuts of the text, up to the white space at its end.
  induction q, cs using segmentsFrom.induct with
  | case1 q =>
    obtain rfl : q = .bare := hclosed
    exact segmentsFrom_continued_of_blank hword rest (by simp)
  | case2 q c tail k' left hcut _ ih =>
    obtain ⟨rfl, hcut'⟩ := cut_of_cutAt? hcut
    rw [segmentsFrom_cut hcut] at hfull ⊢
    obtain ⟨hfirst, hfull⟩ := List.forall_mem_cons.1 hfull
    have hleft : left ≠ [] := by
      rintro rfl
      exact hfirst (by rw [segmentsFrom_nil])
    obtain ⟨lead, htext, hlead⟩ := hcut'.taken
    rw [htext] at hclosed hkeyword
    rw [Quoting.after_append, hlead.after_eq_bare] at hclosed
    rw [segmentsFrom_of_cut (hcut'.append hleft _)]
    exact (ih hclosed (endsInKeyword_of_append hkeyword) hfull).cut k'
  | case3 q c tail hcut ih =>
    by_cases hblank : q = .bare ∧ ∀ d ∈ c :: tail, Text.isBlank d = true
    · obtain ⟨rfl, hblank⟩ := hblank
      exact segmentsFrom_continued_of_blank hword rest hblank
    · have hcut' := cutAt?_append_of_none hcut hkeyword hblank (by decide : Text.isBlank ' ' = true)
        (word ++ ' ' :: rest)
      rw [segmentsFrom_cons hcut] at hfull ⊢
      rw [List.cons_append] at hcut' ⊢
      rw [segmentsFrom_cons hcut']
      exact (ih hclosed (endsInKeyword_tail hkeyword) hfull).cons c

end RowQuery
