import RowQuery.Proofs.Closed
import RowQuery.Proofs.Cuts
/-!
# Cutting loses nothing

A condition text is its segments with what stood between them put back: white space, a word that
names the connective, and white space (`Joint`). Each joint stands outside literals, and no joint
is left in a segment, so that none is cut when it is cut again (`segments_cut_at_keywords`).

`Segmented` says along the cuts what segments a text has, and `Uncut` what a scan has passed over
before it comes to a cut or to the end.
-/

namespace RowQuery

/-- What stands between two segments. The word may be written in any letter case. -/
structure Joint where
  connective : Connective
  lead : List Char
  word : List Char
  gap : List Char
  lead_ne : lead ≠ []
  lead_blank : ∀ c ∈ lead, Text.isBlank c = true
  spelled : word.map Char.toUpper = connective.word.toList
  gap_ne : gap ≠ []
  gap_blank : ∀ c ∈ gap, Text.isBlank c = true

namespace Joint

def text (j : Joint) : List Char := j.lead ++ (j.word ++ j.gap)

theorem inert_text (j : Joint) : Inert j.text :=
  inert_append.2 ⟨inert_of_isBlank j.lead_blank, inert_append.2
    ⟨inert_of_isAlpha (isAlpha_of_isKeyword j.connective.isAlpha_of_mem_word (Text.isKeyword_iff.2 j.spelled)),
      inert_of_isBlank j.gap_blank⟩⟩

/-- Where a joint stands, a text is cut. More white space behind it goes with it. -/
theorem cut (j : Joint) (rest : List Char) : Cut j.connective (j.text ++ rest) (Text.trimStart rest) := by
  have htext : j.text ++ rest =
      j.lead ++ (j.word ++ ((j.gap ++ rest.takeWhile Text.isBlank) ++ Text.trimStart rest)) := by
    simp [text, Text.trimStart]
  rw [htext]
  refine .intro j.lead_ne j.lead_blank (Connective.ofWord?_of_isKeyword (Text.isKeyword_iff.2 j.spelled)) ?_ ?_ (Text.head_trimStart rest)
  · exact List.append_ne_nil_of_left_ne_nil j.gap_ne _
  · exact List.forall_mem_append.2 ⟨j.gap_blank, fun c hc => List.mem_takeWhile_imp hc⟩

end Joint

/-- Where a text is cut, a joint stands. -/
theorem Cut.exists_joint {k : Connective} {cs rest : List Char} (h : Cut k cs rest) :
    ∃ j : Joint, j.connective = k ∧ cs = j.text ++ rest := by
  obtain ⟨lead_ne, lead_blank, named, gap_ne, gap_blank, -⟩ := h
  next lead word gap =>
  have hspelled := Text.isKeyword_iff.1 (Connective.isKeyword_of_ofWord? named)
  exact ⟨⟨k, lead, word, gap, lead_ne, lead_blank, hspelled, gap_ne, gap_blank⟩, rfl, by simp [Joint.text]⟩

theorem cutAt?_joint (j : Joint) (rest : List Char) :
    cutAt? .bare (j.text ++ rest) = some (j.connective, Text.trimStart rest) :=
  connectiveAt?_eq_some_iff.2 (j.cut rest)

/-- What is cut at once is cut at once in a longer text. -/
theorem cutAt?_of_append {q : Quoting} {cs more : List Char} (h : cutAt? q (cs ++ more) = none) :
    cutAt? q cs = none := by
  rw [Option.eq_none_iff_forall_ne_some]
  rintro ⟨k, rest⟩ hcut
  obtain ⟨rfl, hcut'⟩ := cut_of_cutAt? hcut
  obtain ⟨j, -, rfl⟩ := hcut'.exists_joint
  rw [List.append_assoc, cutAt?_joint] at h
  cases h

/-! ## Text without a cut -/

/-- A scan that comes to `cs` at the place `q` cuts nowhere in it, if `more` follows. -/
def Uncut (more : List Char) : Quoting → List Char → Prop
  | _, [] => True
  | q, c :: cs => cutAt? q (c :: (cs ++ more)) = none ∧ Uncut more (q.next c) cs

namespace Uncut

variable {q : Quoting} {cs more : List Char}

theorem alone (h : Uncut more q cs) : Uncut [] q cs := by
  induction cs generalizing q with
  | nil => trivial
  | cons c cs ih =>
    refine ⟨?_, ih h.2⟩
    rw [List.append_nil]
    exact cutAt?_of_append h.1

theorem segmentsFrom_eq (h : Uncut [] q cs) : segmentsFrom q cs = ⟨cs, []⟩ := by
  induction cs generalizing q with
  | nil => exact segmentsFrom_nil q
  | cons c cs ih =>
    obtain ⟨hcut, htail⟩ := h
    rw [List.append_nil] at hcut
    rw [segmentsFrom_cons hcut, ih htail]

/-- A joint in text without a cut stands in a literal. -/
theorem after_ne_bare {before after : List Char} {j : Joint} (h : Uncut more q (before ++ (j.text ++ after))) :
    q.after before ≠ .bare := by
  induction before generalizing q with
  | nil =>
    rintro rfl
    obtain ⟨c, lead, hlead⟩ := List.exists_cons_of_ne_nil j.lead_ne
    have htext : j.text ++ after ++ more = c :: (lead ++ (j.word ++ j.gap) ++ after ++ more) := by
      simp [Joint.text, hlead]
    have hnone : cutAt? .bare (j.text ++ after ++ more) = none := by
      rw [htext]
      simp only [Joint.text, hlead, List.nil_append, List.cons_append] at h
      exact h.1
    rw [List.append_assoc, cutAt?_joint] at hnone
    cases hnone
  | cons c before ih => exact ih h.2

end Uncut

/-! ## Text along its cuts -/

/-- The segments of a text, for a scan that comes to it at the place `q`. A segment goes on up to
the first joint outside literals. -/
inductive Segmented : Quoting → List Char → Segments → Prop
  | whole {q : Quoting} {text : List Char} (uncut : Uncut [] q text) : Segmented q text ⟨text, []⟩
  | cut {q : Quoting} {segment rest : List Char} {s : Segments} (j : Joint)
    (uncut : Uncut (j.text ++ rest) q segment) (closed : q.after segment = .bare) (tail : Segmented .bare rest s) :
    Segmented q (segment ++ (j.text ++ rest)) ⟨segment, (j.connective, s.first) :: s.rest⟩

/-- Segments with joints between them, put together. -/
def assemble (first : List Char) (rest : List (Joint × List Char)) : List Char :=
  first ++ rest.flatMap fun (j, segment) => j.text ++ segment

theorem assemble_cons (first : List Char) (j : Joint) (segment : List Char) (rest : List (Joint × List Char)) :
    assemble first ((j, segment) :: rest) = first ++ (j.text ++ assemble segment rest) := by
  simp [assemble]

namespace Segmented

variable {q : Quoting} {cs : List Char} {s : Segments}

theorem cons {c : Char} (hcut : cutAt? q (c :: cs) = none) (h : Segmented (q.next c) cs s) :
    Segmented q (c :: cs) ⟨c :: s.first, s.rest⟩ := by
  cases h with
  | whole uncut => exact .whole ⟨by rwa [List.append_nil], uncut⟩
  | @cut _ segment rest _ j uncut closed tail =>
    exact @Segmented.cut _ (c :: segment) _ _ j ⟨hcut, uncut⟩ closed tail

/-- No segment can be cut again. -/
theorem uncut (h : Segmented q cs s) : Uncut [] q s.first ∧ ∀ x ∈ s.rest, Uncut [] .bare x.2 := by
  induction h with
  | whole uncut => exact ⟨uncut, by simp⟩
  | cut j uncut _ _ ih => exact ⟨uncut.alone, List.forall_mem_cons.2 ih⟩

/-- The text is its segments with joints between them, each outside literals. -/
theorem exists_joints (h : Segmented q cs s) :
    ∃ joints : List (Joint × List Char),
      s.rest = joints.map (fun (j, segment) => (j.connective, segment)) ∧ cs = assemble s.first joints ∧
        ∀ n < joints.length, q.after (assemble s.first (joints.take n)) = .bare := by
  induction h with
  | whole _ => exact ⟨[], rfl, by simp [assemble], by simp⟩
  | @cut q segment rest s j _ closed _ ih =>
    obtain ⟨joints, hrest, htext, houtside⟩ := ih
    refine ⟨(j, s.first) :: joints, by rw [hrest]; rfl, by rw [assemble_cons, ← htext], fun n hn => ?_⟩
    cases n with
    | zero => simpa [assemble] using closed
    | succ n =>
      rw [List.take_succ_cons, assemble_cons, Quoting.after_append, closed, Quoting.after_append,
        j.inert_text.after_eq_bare]
      exact houtside n (Nat.lt_of_succ_lt_succ hn)

end Segmented

/-- A text is cut into its segments. -/
theorem segmented_segmentsFrom (q : Quoting) (cs : List Char) : Segmented q cs (segmentsFrom q cs) := by
  induction q, cs using segmentsFrom.induct with
  | case1 q =>
    rw [segmentsFrom_nil]
    exact .whole trivial
  | case2 q c tail k rest hcut _ ih =>
    obtain ⟨rfl, hcut'⟩ := cut_of_cutAt? hcut
    obtain ⟨j, rfl, htext⟩ := hcut'.exists_joint
    rw [segmentsFrom_cut hcut, htext]
    exact @Segmented.cut _ [] _ _ j trivial rfl ih
  | case3 q c tail hcut ih =>
    rw [segmentsFrom_cons hcut]
    exact ih.cons hcut

/-- **A condition text is cut at its keywords, and nothing is lost.** Its tokens are segments and
connectives that take turns, with a segment at either end. The text is the segments with a joint between any two: white space, a word that names
the connective of this place, and white space. In front of each joint all literals are closed. In
a segment, joints stand in literals only, so a segment on its own is not cut. -/
theorem segments_cut_at_keywords (text : String) :
    tokenize text = (segments text).tokens ∧ ∃ joints : List (Joint × List Char),
      (segments text).rest = joints.map (fun (j, segment) => (j.connective, segment)) ∧
      text.toList = assemble (segments text).first joints ∧
      (∀ n < joints.length, Closed (assemble (segments text).first (joints.take n))) ∧
      ∀ segment ∈ (segments text).texts,
        (∀ before after (j : Joint), segment = before ++ (j.text ++ after) → ¬Closed before) ∧
          segments (String.ofList segment) = ⟨segment, []⟩ := by
  refine ⟨tokenize_eq text, ?_⟩
  have hsegmented : Segmented .bare text.toList (segments text) := segmented_segmentsFrom .bare text.toList
  obtain ⟨joints, hrest, htext, houtside⟩ := hsegmented.exists_joints
  refine ⟨joints, hrest, htext, fun n hn => Quoting.after_eq_bare_iff.1 (houtside n hn), fun segment hsegment => ?_⟩
  have huncut : Uncut [] .bare segment := by
    obtain ⟨hfirst, htail⟩ := hsegmented.uncut
    rcases List.mem_cons.1 hsegment with rfl | hmem
    · exact hfirst
    · obtain ⟨x, hx, rfl⟩ := List.mem_map.1 hmem
      exact htail x hx
  constructor
  · rintro before after j rfl hclosed
    exact huncut.after_ne_bare (Quoting.after_eq_bare_iff.2 hclosed)
  · rw [segments, String.toList_ofList]
    exact huncut.segmentsFrom_eq

/-- Keywords in mixed and in lower case, one at either end, one right behind another, one in a literal,
and one in a literal that is not closed. -/
theorem segments_cut_at_keywords_in_mixed_case :
    tokenize "AND a = 'x AND y'  aNd \t or Or b = 'o or " =
      [.segment "AND a = 'x AND y'".toList, .connective .and, .segment "or".toList, .connective .or,
        .segment "b = 'o or ".toList] := by
  rw [(segments_cut_at_keywords _).1]
  decide +kernel

end RowQuery
