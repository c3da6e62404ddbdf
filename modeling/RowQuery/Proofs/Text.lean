import RowQuery.Condition.Comparison
import RowQuery.Text.Scan
import Mathlib
/-!
# Characters and cuts

No character of a name, a numeral, a keyword or a quote is white space. That is read off
the tables of ranges, whole ranges at a time. From it follows what trimming and
scanning leave of such texts.
-/

namespace RowQuery

namespace Text

/-! ## Classes of characters -/

/-- Tables whose ranges do not meet have no code point in common. -/
theorem inRanges_disjoint {table other : List (Nat × Nat)} {code : Nat}
    (h : table.all fun r => other.all fun s => r.2 < s.1 || s.2 < r.1)
    (hcode : inRanges table code = true) : inRanges other code = false := by
  simp only [inRanges, List.any_eq_true, List.any_eq_false, List.all_eq_true, Bool.or_eq_true,
    Bool.and_eq_true, decide_eq_true_eq] at *
  obtain ⟨r, hr, hlow, hhigh⟩ := hcode
  intro s hs
  have := h r hr s hs
  omega

theorem isBlank_of_isAlphanumeric {c : Char} (h : isAlphanumeric c = true) : isBlank c = false :=
  inRanges_disjoint (by decide +kernel) h

/-- The characters of ASCII that can be seen are not white space. -/
theorem isBlank_of_visible {c : Char} (hlow : 0x20 < c.toNat) (hhigh : c.toNat < 0x7f) :
    isBlank c = false := by
  have h : inRanges [(0x21, 0x7e)] c.toNat = true := by
    simp only [inRanges, List.any_cons, List.any_nil, Bool.or_false, Bool.and_eq_true,
      decide_eq_true_eq]
    omega
  exact inRanges_disjoint (by decide) h

theorem isBlank_of_mem_space : ∀ c ∈ [' '], isBlank c = true := by
  simp only [List.mem_singleton, forall_eq]
  decide

theorem toNat_of_isDigit {c : Char} (h : c.isDigit = true) : 48 ≤ c.toNat ∧ c.toNat ≤ 57 := by
  simp only [Char.isDigit, Bool.and_eq_true, decide_eq_true_eq, ge_iff_le, UInt32.le_iff_toNat_le] at h
  exact h

theorem toNat_of_isAlpha {c : Char} (h : c.isAlpha = true) :
    65 ≤ c.toNat ∧ c.toNat ≤ 90 ∨ 97 ≤ c.toNat ∧ c.toNat ≤ 122 := by
  simp only [Char.isAlpha, Char.isUpper, Char.isLower, Bool.or_eq_true, Bool.and_eq_true,
    decide_eq_true_eq, ge_iff_le, UInt32.le_iff_toNat_le] at h
  exact h

theorem isAlpha_of_isDigit {c : Char} (h : c.isDigit = true) : c.isAlpha = false := by
  rw [Bool.eq_false_iff]
  intro ha
  have := toNat_of_isDigit h
  have := toNat_of_isAlpha ha
  omega

theorem isBlank_of_isDigit {c : Char} (h : c.isDigit = true) : isBlank c = false := by
  have := toNat_of_isDigit h
  exact isBlank_of_visible (by omega) (by omega)

theorem isBlank_of_isAlpha {c : Char} (h : c.isAlpha = true) : isBlank c = false := by
  have := toNat_of_isAlpha h
  exact isBlank_of_visible (by omega) (by omega)

end Text

theorem isBlank_of_isColumnChar {c : Char} (h : isColumnChar c = true) : Text.isBlank c = false := by
  simp only [isColumnChar, Bool.or_eq_true, beq_iff_eq] at h
  rcases h with (h | rfl) | rfl
  · exact Text.isBlank_of_isAlphanumeric h
  · decide
  · decide

theorem isQuote_iff {c : Char} : isQuote c = true ↔ c = '\'' ∨ c = '"' := by
  simp [isQuote]

theorem isQuote_of_isColumnChar {c : Char} (h : isColumnChar c = true) : isQuote c = false := by
  rw [Bool.eq_false_iff]
  intro hquote
  rcases isQuote_iff.1 hquote with rfl | rfl <;> exact absurd h (by decide +kernel)

theorem isBlank_of_isQuote {c : Char} (h : isQuote c = true) : Text.isBlank c = false := by
  rcases isQuote_iff.1 h with rfl | rfl <;> decide

namespace Text

/-! ## Trimming -/

theorem trimStart_of_head {cs : List Char} (h : ∀ c ∈ cs.head?, isBlank c = false) :
    trimStart cs = cs := by
  cases cs with
  | nil => rfl
  | cons c cs => simp [trimStart, h c rfl]

theorem trimEnd_of_last {cs : List Char} (h : ∀ c ∈ cs.getLast?, isBlank c = false) :
    trimEnd cs = cs := by
  have hrev : trimStart cs.reverse = cs.reverse := trimStart_of_head (by simpa using h)
  unfold trimEnd
  rw [show cs.reverse.dropWhile isBlank = cs.reverse from hrev, List.reverse_reverse]

/-- Nothing is trimmed off a text without white space at its ends. -/
theorem trim_of_ends {cs : List Char} (hfirst : ∀ c ∈ cs.head?, isBlank c = false)
    (hlast : ∀ c ∈ cs.getLast?, isBlank c = false) : trim cs = cs := by
  unfold trim
  rw [trimStart_of_head hfirst, trimEnd_of_last hlast]

theorem trim_of_forall {cs : List Char} (h : ∀ c ∈ cs, isBlank c = false) : trim cs = cs :=
  trim_of_ends (fun c hc => h c (List.mem_of_mem_head? hc)) (fun c hc => h c (List.mem_of_getLast? hc))

end Text

end RowQuery
