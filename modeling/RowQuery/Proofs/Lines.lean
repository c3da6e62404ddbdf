import RowQuery.Proofs.Composition
import RowQuery.Shell.Command
/-!
# Lines of the shell

What reading makes of a line that is put together from a command word and what belongs
behind it (`Command.parse_line`): words with a space before each, a list with commas, or text
with a bar in it. White space around the line and around each part is lost, and nothing else.
-/

namespace RowQuery

namespace Text

/-! ## Trimming -/

/-- What is trimmed off at the end is white space. -/
theorem trimEnd_parts (cs : List Char) :
    ∃ blank, (∀ c ∈ blank, isBlank c = true) ∧ cs = trimEnd cs ++ blank := by
  refine ⟨(cs.reverse.takeWhile isBlank).reverse, ?_, ?_⟩
  · intro c hc
    exact List.mem_takeWhile_imp (List.mem_reverse.1 hc)
  · rw [trimEnd, ← List.reverse_append, List.takeWhile_append_dropWhile, List.reverse_reverse]

theorem last_trimEnd (cs : List Char) : ∀ c ∈ (trimEnd cs).getLast?, isBlank c = false := by
  rw [trimEnd, List.getLast?_reverse]
  exact head_trimStart cs.reverse

theorem trim_trimEnd (cs : List Char) : trim (trimEnd cs) = trim cs := by
  obtain ⟨blank, hblank, hcs⟩ := trimEnd_parts cs
  rw [← trim_append_of_blank (trimEnd cs) hblank, ← hcs]

theorem isBlank_head_trim (cs : List Char) : ∀ c ∈ (trim cs).head?, isBlank c = false := by
  intro c hc
  obtain ⟨blank, -, hparts⟩ := trimEnd_parts (trimStart cs)
  refine head_trimStart cs c ?_
  rw [hparts]
  exact List.mem_head?_append_of_mem_head? hc

theorem isBlank_last_trim (cs : List Char) : ∀ c ∈ (trim cs).getLast?, isBlank c = false :=
  last_trimEnd (trimStart cs)

theorem trim_blank_append {lead : List Char} (h : ∀ c ∈ lead, isBlank c = true) (cs : List Char) :
    trim (lead ++ cs) = trim cs := by
  rw [trim, trimStart_append_of_blank h, trim]

/-- Text is trimmed by taking white space off at both ends. -/
theorem trim_parts (cs : List Char) :
    ∃ lead blank, (∀ c ∈ lead, isBlank c = true) ∧ (∀ c ∈ blank, isBlank c = true) ∧
      cs = lead ++ (trim cs ++ blank) := by
  obtain ⟨blank, hblank, htrim⟩ := trimEnd_parts (trimStart cs)
  refine ⟨cs.takeWhile isBlank, blank, fun c hc => List.mem_takeWhile_imp hc, hblank, ?_⟩
  rw [trim, ← htrim, trimStart, List.takeWhile_append_dropWhile]

/-- Around a character that is no white space, text is trimmed on either side. -/
theorem trim_append_cons {c : Char} (hc : isBlank c = false) (before after : List Char) :
    trim (before ++ c :: after) = trimStart before ++ c :: trimEnd after := by
  obtain ⟨blank, hblank, hafter⟩ := trimEnd_parts after
  have hlast := last_trimEnd after
  have hparts : before ++ c :: after =
      before.takeWhile isBlank ++ (trimStart before ++ c :: trimEnd after ++ blank) := by
    rw [List.append_assoc, List.cons_append, ← hafter, ← List.append_assoc, trimStart,
      List.takeWhile_append_dropWhile]
  rw [hparts, trim_blank_append fun d hd => List.mem_takeWhile_imp hd, trim_append_of_blank _ hblank]
  refine trim_of_ends ?_ ?_
  · intro d hd
    have hfirst := head_trimStart before
    cases hbefore : trimStart before with
    | nil =>
      rw [hbefore] at hd
      exact Option.some.inj hd ▸ hc
    | cons e cs =>
      rw [hbefore] at hd hfirst
      exact hfirst d hd
  · intro d hd
    rw [List.getLast?_append_cons, List.getLast?_cons] at hd
    cases hback : (trimEnd after).getLast? with
    | none =>
      rw [hback] at hd
      exact Option.some.inj hd ▸ hc
    | some e =>
      rw [hback] at hd
      exact hlast d (hback.trans hd)

/-! ## Words -/

/-- Text that is a single word. -/
structure IsWord (cs : List Char) : Prop where
  ne_nil : cs ≠ []
  solid : ∀ c ∈ cs, isBlank c = false

theorem IsWord.of_all {cs : List Char} (hne : cs ≠ []) (h : cs.all (fun c => !isBlank c) = true) : IsWord cs :=
  ⟨hne, fun c hc => by simpa using List.all_eq_true.1 h c hc⟩

theorem IsWord.of_isAlpha {cs : List Char} (hne : cs ≠ []) (h : cs.all Char.isAlpha = true) : IsWord cs :=
  ⟨hne, fun c hc => isBlank_of_isAlpha (List.all_eq_true.1 h c hc)⟩

theorem words_nil : words [] = [] := rfl

theorem words_append_cons (cs : List Char) {b : Char} (hb : isBlank b = true) (ds : List Char) :
    words (cs ++ b :: ds) = words cs ++ words ds := by
  rw [words, List.splitOnP_append_cons cs ds hb, List.filter_append, words, words]

theorem words_append_of_blank (cs : List Char) {blank : List Char} (h : ∀ c ∈ blank, isBlank c = true) :
    words (cs ++ blank) = words cs := by
  induction blank generalizing cs with
  | nil => rw [List.append_nil]
  | cons b blank ih =>
    obtain ⟨hb, hblank⟩ := List.forall_mem_cons.1 h
    have hnil := ih [] hblank
    rw [words_append_cons cs hb, ← List.nil_append blank, hnil, words_nil, List.append_nil]

theorem words_blank_append {lead : List Char} (h : ∀ c ∈ lead, isBlank c = true) (cs : List Char) :
    words (lead ++ cs) = words cs := by
  induction lead with
  | nil => rfl
  | cons b lead ih =>
    obtain ⟨hb, hlead⟩ := List.forall_mem_cons.1 h
    rw [List.cons_append, ← List.nil_append (b :: _), words_append_cons [] hb, ih hlead]
    rfl

theorem words_trim (cs : List Char) : words (trim cs) = words cs := by
  obtain ⟨lead, blank, hlead, hblank, hcs⟩ := trim_parts cs
  conv_rhs => rw [hcs]
  rw [words_blank_append hlead, words_append_of_blank _ hblank]

theorem IsWord.words {cs : List Char} (h : IsWord cs) : words cs = [cs] := by
  rw [Text.words, List.splitOnP_eq_singleton h.solid]
  simp [h.ne_nil]

/-- A word ends at the white space behind it. -/
theorem words_word_append {cs ds : List Char} (h : IsWord cs) (hds : ∀ c ∈ ds.head?, isBlank c = true) :
    words (cs ++ ds) = cs :: words ds := by
  cases ds with
  | nil => rw [List.append_nil, h.words, words_nil]
  | cons b ds =>
    have hb := hds b rfl
    rw [words_append_cons cs hb, h.words, ← List.nil_append (b :: ds), words_append_cons [] hb, words_nil]
    rfl

theorem isBlank_head_space (cs : List Char) : ∀ c ∈ (' ' :: cs).head?, isBlank c = true := by
  rintro c ⟨⟩
  decide

/-- Words with a space before each are taken apart into these words. -/
theorem words_flatMap {texts : List (List Char)} (h : ∀ text ∈ texts, IsWord text) :
    words (texts.flatMap (' ' :: ·)) = texts := by
  induction texts with
  | nil => rfl
  | cons text texts ih =>
    obtain ⟨htext, htexts⟩ := List.forall_mem_cons.1 h
    have hspace : ∀ cs, words (' ' :: cs) = words cs := words_blank_append isBlank_of_mem_space
    have hhead : ∀ c ∈ (texts.flatMap (' ' :: ·)).head?, isBlank c = true := by
      cases texts with
      | nil => simp
      | cons next texts => exact isBlank_head_space _
    rw [List.flatMap_cons, List.cons_append, hspace, words_word_append htext hhead, ih htexts]

end Text

/-! ## The last separator -/

namespace Text

theorem splitLast?_eq_none {separator : Char} {cs : List Char} (h : separator ∉ cs) :
    splitLast? separator cs = none := by
  induction cs with
  | nil => rfl
  | cons c cs ih =>
    obtain ⟨hc, hcs⟩ := not_or.1 (mt List.mem_cons.2 h)
    rw [splitLast?, ih hcs]
    exact if_neg fun heq => hc heq.symm

theorem splitLast?_append {separator : Char} {after : List Char} (h : separator ∉ after) (before : List Char) :
    splitLast? separator (before ++ separator :: after) = some (before, after) := by
  induction before with
  | nil =>
    rw [List.nil_append, splitLast?, splitLast?_eq_none h]
    exact if_pos rfl
  | cons c before ih =>
    rw [List.cons_append, splitLast?, ih]

/-- Text with a separator in it has a last one. -/
theorem exists_last_of_mem {separator : Char} {cs : List Char} (h : separator ∈ cs) :
    ∃ before after, cs = before ++ separator :: after ∧ separator ∉ after := by
  obtain ⟨front, back, hcs, hfront⟩ := List.eq_append_cons_of_mem (List.mem_reverse.2 h)
  refine ⟨back.reverse, front.reverse, ?_, mt List.mem_reverse.1 hfront⟩
  rw [← List.reverse_reverse cs, hcs]
  simp

end Text

/-! ## Lists with commas -/

theorem Text.not_mem_intercalate {c : Char} {separator : List Char} (hseparator : c ∉ separator)
    {texts : List (List Char)} (h : ∀ text ∈ texts, c ∉ text) : c ∉ separator.intercalate texts := by
  induction texts with
  | nil => exact List.not_mem_nil
  | cons text texts ih =>
    obtain ⟨htext, htexts⟩ := List.forall_mem_cons.1 h
    cases texts with
    | nil => simpa using htext
    | cons next texts =>
      rw [List.intercalate_cons_cons]
      exact List.not_mem_append (List.not_mem_append htext hseparator) (ih htexts)

namespace Argument

/-- Text without a comma is a single part. -/
theorem commaList_of_not_mem {cs : List Char} (h : ',' ∉ cs) :
    commaList cs = [String.ofList (Text.trim cs)] := by
  have hcomma : ∀ c ∈ cs, (c == ',') = false := by
    intro c hc
    rw [beq_eq_false_iff_ne]
    rintro rfl
    exact h hc
  rw [commaList, List.splitOn, List.splitOnP_eq_singleton hcomma, List.map_singleton]

theorem commaList_append_cons (cs ds : List Char) :
    commaList (cs ++ ',' :: ds) = commaList cs ++ commaList ds := by
  rw [commaList, List.splitOn, List.splitOnP_append_cons cs ds (by decide), List.map_append]
  rfl

theorem commaList_ne_nil (cs : List Char) : commaList cs ≠ [] := by
  rw [commaList, Ne, List.map_eq_nil_iff]
  exact List.splitOnP_ne_nil _ _

theorem commaList_append_of_blank (cs : List Char) {blank : List Char}
    (h : ∀ c ∈ blank, Text.isBlank c = true) : commaList (cs ++ blank) = commaList cs := by
  have hblank : ',' ∉ blank := fun hmem => absurd (h _ hmem) (by decide)
  by_cases hcs : ',' ∈ cs
  · obtain ⟨before, after, rfl, hafter⟩ := Text.exists_last_of_mem hcs
    rw [List.append_assoc, List.cons_append, commaList_append_cons, commaList_append_cons,
      commaList_of_not_mem hafter,
      commaList_of_not_mem (List.not_mem_append hafter hblank), Text.trim_append_of_blank after h]
  · rw [commaList_of_not_mem hcs, commaList_of_not_mem (List.not_mem_append hcs hblank),
      Text.trim_append_of_blank cs h]

theorem commaList_blank_append {lead : List Char} (h : ∀ c ∈ lead, Text.isBlank c = true) (cs : List Char) :
    commaList (lead ++ cs) = commaList cs := by
  have hlead : ',' ∉ lead := fun hmem => absurd (h _ hmem) (by decide)
  by_cases hcs : ',' ∈ cs
  · obtain ⟨before, after, rfl, hbefore⟩ := List.eq_append_cons_of_mem hcs
    rw [← List.append_assoc, commaList_append_cons, commaList_append_cons, commaList_of_not_mem hbefore,
      commaList_of_not_mem (List.not_mem_append hlead hbefore), Text.trim_blank_append h]
  · rw [commaList_of_not_mem hcs, commaList_of_not_mem (List.not_mem_append hlead hcs),
      Text.trim_blank_append h]

theorem commaList_trimEnd (cs : List Char) : commaList (Text.trimEnd cs) = commaList cs := by
  obtain ⟨blank, hblank, hcs⟩ := Text.trimEnd_parts cs
  conv_rhs => rw [hcs]
  rw [commaList_append_of_blank _ hblank]

/-- White space around a list is lost like that around its parts. -/
theorem commaList_trim (cs : List Char) : commaList (Text.trim cs) = commaList cs := by
  obtain ⟨lead, blank, hlead, hblank, hcs⟩ := Text.trim_parts cs
  conv_rhs => rw [hcs]
  rw [commaList_blank_append hlead, commaList_append_of_blank _ hblank]

/-- Texts without commas, with a comma and a space between them, are taken apart into these
texts without the white space around them. -/
theorem commaList_intercalate {texts : List String} (hne : texts ≠ [])
    (h : ∀ text ∈ texts, ',' ∉ text.toList) :
    commaList (", ".intercalate texts).toList =
      texts.map fun text => String.ofList (Text.trim text.toList) := by
  rw [String.toList_intercalate]
  induction texts with
  | nil => exact absurd rfl hne
  | cons text texts ih =>
    obtain ⟨htext, htexts⟩ := List.forall_mem_cons.1 h
    cases texts with
    | nil => simpa using commaList_of_not_mem htext
    | cons next texts =>
      have hspace : ∀ cs, commaList (' ' :: cs) = commaList cs :=
        commaList_blank_append Text.isBlank_of_mem_space
      have hjoin : ", ".toList.intercalate (List.map String.toList (text :: next :: texts)) =
          text.toList ++ ',' :: ' ' :: ", ".toList.intercalate (List.map String.toList (next :: texts)) := by
        rw [List.map_cons, List.map_cons, List.intercalate_cons_cons]
        simp
      rw [hjoin, commaList_append_cons, hspace, ih (List.cons_ne_nil _ _) htexts, commaList_of_not_mem htext]
      rfl

/-! ## Counts -/

/-- Digits are read as a number if it fits, since then all that is read on the way fits. -/
theorem countDigits_of_lt {digits : List Char} (hdigits : ∀ c ∈ digits, c.isDigit = true) {n : Nat}
    (h : Nat.ofDigitChars 10 digits n < 2 ^ 64) : countDigits n digits = .ok (Nat.ofDigitChars 10 digits n) := by
  induction digits generalizing n with
  | nil => rfl
  | cons c digits ih =>
    obtain ⟨hc, hdigits⟩ := List.forall_mem_cons.1 hdigits
    rw [Nat.ofDigitChars_cons, Nat.mul_comm 10 n] at h ⊢
    rw [countDigits, if_pos hc]
    exact (if_pos (Nat.lt_of_le_of_lt (Numeral.le_ofDigitChars _ digits) h)).trans (ih hdigits h)

/-- Digits whose number does not fit are told to be too large, at the first place where they are. -/
theorem countDigits_of_le {digits : List Char} (hdigits : ∀ c ∈ digits, c.isDigit = true) {n : Nat} (hn : n < 2 ^ 64)
    (h : 2 ^ 64 ≤ Nat.ofDigitChars 10 digits n) : countDigits n digits = .error .tooLarge := by
  induction digits generalizing n with
  | nil => exact absurd hn (Nat.not_lt.2 h)
  | cons c digits ih =>
    obtain ⟨hc, hdigits⟩ := List.forall_mem_cons.1 hdigits
    rw [Nat.ofDigitChars_cons, Nat.mul_comm 10 n] at h
    rw [countDigits, if_pos hc]
    dsimp only
    split
    next hlonger => exact ih hdigits hlonger h
    next => rfl

/-- Text that is all digits is read digit by digit. -/
theorem count_of_digits {text : String} (hne : text.toList ≠ []) (hdigits : ∀ c ∈ text.toList, c.isDigit = true) :
    count text = countDigits 0 text.toList := by
  obtain ⟨c, cs, hcs⟩ := List.exists_cons_of_ne_nil hne
  have hplus : c ≠ '+' := by
    rintro rfl
    exact absurd (hdigits '+' (by simp [hcs])) (by decide)
  rw [count, hcs]
  split
  next heq => cases heq
  next heq => exact absurd (List.cons.inj heq).1 hplus
  next heq => exact absurd (List.cons.inj heq).1 hplus
  next => rfl

/-- The digits of a number of 64 bits are read as this number. -/
theorem count_toString {n : Nat} (h : n < 2 ^ 64) : count (toString n) = .ok n := by
  have htext : (toString n).toList = Nat.toDigits 10 n := Nat.toList_repr
  have hdigits : ∀ c ∈ (toString n).toList, c.isDigit = true := by
    rw [htext]
    exact Numeral.isDigit_of_mem_digitsOf
  have hvalue : Nat.ofDigitChars 10 (toString n).toList 0 = n := by
    rw [htext, Nat.ofDigitChars_ten_toDigits]
  have hread := countDigits_of_lt hdigits (n := 0)
  rw [hvalue] at hread
  rw [count_of_digits (by rw [htext]; exact Nat.toDigits_ne_nil) hdigits, hread h]

end Argument

/-! ## A whole line -/

/-- Trimming takes nothing off a word in front of white space. -/
theorem Text.trim_word_append {word text : List Char} (hword : IsWord word)
    (htext : ∀ c ∈ text.head?, isBlank c = true) : trim (word ++ text) = word ++ trimEnd text ∧
      ∀ c ∈ (trimEnd text).head?, isBlank c = true := by
  obtain ⟨blank, hblank, hparts⟩ := trimEnd_parts text
  have hlast := last_trimEnd text
  constructor
  · conv_lhs => rw [hparts]
    rw [← List.append_assoc, trim_append_of_blank _ hblank]
    refine trim_of_ends ?_ ?_
    · intro c hc
      rw [List.head?_append_of_ne_nil _ hword.ne_nil] at hc
      exact hword.solid c (List.mem_of_mem_head? hc)
    · intro c hc
      rw [List.getLast?_append] at hc
      cases hback : (trimEnd text).getLast? with
      | none =>
        rw [hback] at hc
        exact hword.solid c (List.mem_of_getLast? hc)
      | some d =>
        rw [hback] at hc
        exact hlast c (hback.trans hc)
  · intro c hc
    refine htext c ?_
    rw [hparts, List.head?_append_of_ne_nil _ (List.ne_nil_of_mem (List.mem_of_mem_head? hc))]
    exact hc

namespace Shell

/-- A word that is read at the start of a line as it stands: letters in lower case. -/
def IsCommandWord (word : String) : Prop :=
  word.toList ≠ [] ∧ word.toList.all Char.isAlpha = true ∧ String.ofList (Text.lowercase word.toList) = word

instance (word : String) : Decidable (IsCommandWord word) := inferInstanceAs (Decidable (_ ∧ _ ∧ _))

/-- A line is its first word and what stands behind it. -/
theorem Command.parse_of_word {line : String} {lead word text : List Char}
    (hlead : ∀ c ∈ lead, Text.isBlank c = true) (hword : Text.IsWord word)
    (htext : ∀ c ∈ text.head?, Text.isBlank c = true) (hline : line.toList = lead ++ (word ++ text)) :
    parse line = ofWord (String.ofList (Text.lowercase word)) (Text.trim text) := by
  obtain ⟨htrim, hhead⟩ := Text.trim_word_append hword htext
  have hsolid : ∀ c ∈ word, (!Text.isBlank c) = true := fun c hc => by simp [hword.solid c hc]
  have hends : ∀ c ∈ (Text.trimEnd text).head?, (!Text.isBlank c) = false := fun c hc => by simp [hhead c hc]
  obtain ⟨htake, hdrop⟩ := takeWhile_dropWhile_append hsolid hends
  rw [parse, hline, Text.trim_blank_append hlead, htrim]
  simp only [htake, hdrop, Text.trim_trimEnd]

/-- A line is its command word and what stands behind the first white space. -/
theorem Command.parse_line {line word : String} {rest : List Char} (hword : IsCommandWord word)
    (hline : line.toList = word.toList ++ ' ' :: rest) : parse line = ofWord word (Text.trim rest) := by
  obtain ⟨hne, halpha, hcase⟩ := hword
  have hlead : ∀ c ∈ ([] : List Char), Text.isBlank c = true := by simp
  rw [parse_of_word hlead (.of_isAlpha hne halpha) (Text.isBlank_head_space rest) hline, hcase]
  exact congrArg (ofWord word) (Text.trim_blank_append Text.isBlank_of_mem_space rest)

end Shell

end RowQuery
