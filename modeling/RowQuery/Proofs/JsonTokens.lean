import RowQuery.Json.Token
import RowQuery.Json.Writer
import RowQuery.Proofs.JsonNumeral
/-!
# JSON tokens read back

A string is read back character by character, whether a character was escaped or not. White
space between tokens is passed over, so a text is scanned the same in both layouts.
-/

namespace RowQuery

namespace Json

/-! ## Strings -/

theorem takeString?_char {c : Char} (hquote : c ≠ '"') (hbackslash : c ≠ '\\') (hcontrol : ¬c.toNat < 0x20)
    (cs : List Char) :
    takeString? (c :: cs) = (takeString? cs).map fun (text, rest) => (c :: text, rest) := by
  rw [takeString?, if_neg hquote, if_neg hbackslash, if_neg hcontrol]

theorem takeString?_escape {cs rest : List Char} {e : Char} (h : takeEscape? cs = some (e, rest)) :
    takeString? ('\\' :: cs) = (takeString? rest).map fun (text, rest) => (e :: text, rest) := by
  rw [takeString?, if_neg (by decide), if_pos rfl]
  split
  next heq => rw [h] at heq; cases heq
  next heq =>
    rw [h] at heq
    obtain ⟨rfl, rfl⟩ := Prod.mk.inj (Option.some.inj heq)
    rfl

theorem hexValue?_hexDigit : ∀ n < 16, hexValue? (hexDigit n) = some n := by decide

/-- A control character is read back from its code. -/
theorem takeEscape?_unit {c : Char} (h : c.toNat < 0x20) (cs : List Char) :
    takeEscape? ('u' :: '0' :: '0' :: hexDigit (c.toNat / 16) :: hexDigit (c.toNat % 16) :: cs) = some (c, cs) := by
  have hzero : hexValue? '0' = some 0 := rfl
  have hhigh := hexValue?_hexDigit (c.toNat / 16) (by omega)
  have hlow := hexValue?_hexDigit (c.toNat % 16) (by omega)
  have hunit : (0 * 16 + 0) * 256 + c.toNat / 16 * 16 + c.toNat % 16 = c.toNat := by omega
  simp only [takeEscape?, takeUnits?, takeUnit?, hzero, hhigh, hlow, Option.bind_eq_bind, Option.bind_some, if_pos,
    Option.pure_def, hunit]
  rw [if_neg (by omega), if_neg (by omega), Char.ofNat_toNat]

/-- A character is read back from the way it is written. -/
theorem takeString?_escaped (c : Char) (cs : List Char) :
    takeString? (escaped c ++ cs) = (takeString? cs).map fun (text, rest) => (c :: text, rest) := by
  unfold escaped
  split
  iterate 7 exact takeString?_escape rfl
  next hquote hbackslash _ _ _ _ _ =>
    split
    next hcontrol => exact takeString?_escape (takeEscape?_unit hcontrol cs)
    next hcontrol => exact takeString?_char hquote hbackslash hcontrol cs

theorem takeString?_flatMap (text rest : List Char) :
    takeString? (text.flatMap escaped ++ '"' :: rest) = some (text, rest) := by
  induction text with
  | nil => simp [takeString?]
  | cons c text ih =>
    rw [List.flatMap_cons, List.append_assoc, takeString?_escaped, ih]
    rfl

namespace Token

/-! ## Single tokens -/

theorem take?_stringText (s : String) (rest : List Char) :
    take? (stringText s ++ rest) = some (string s, rest) := by
  have htext : stringText s ++ rest = '"' :: (s.toList.flatMap escaped ++ '"' :: rest) := by
    simp [stringText]
  rw [htext, take?, takeString?_flatMap]
  simp

/-- A numeral is a token, since none of the other tokens starts like one. -/
theorem take?_numeral {cs rest : List Char} {l : Numeral} {n : Number} (h : Numeral.take? cs = some (l, rest))
    (hn : l.number? = some n) : take? cs = some (number n, rest) := by
  unfold take?
  split
  iterate 11 simp [Numeral.take?, Numeral.takeWhole?, Numeral.takeDigits?] at h
  simp [h, hn]

/-- No token starts with white space. -/
theorem take?_of_isSpace {c : Char} (h : isSpace c = true) (cs : List Char) : take? (c :: cs) = none := by
  simp only [isSpace, Bool.or_eq_true, beq_iff_eq] at h
  rcases h with ((rfl | rfl) | rfl) | rfl <;>
    simp [take?, Numeral.take?, Numeral.takeWhole?, Numeral.takeDigits?]

/-! ## Scanning -/

theorem scan?_nil : scan? [] = some [] := by rw [scan?]

theorem scan?_space {c : Char} (h : isSpace c = true) (cs : List Char) : scan? (c :: cs) = scan? cs := by
  rw [scan?, if_pos h]

theorem scan?_of_take? {cs rest : List Char} {token : Token} (h : take? cs = some (token, rest)) :
    scan? cs = (scan? rest).map (token :: ·) := by
  cases cs with
  | nil => simp [take?] at h
  | cons c cs =>
    have hspace : ¬isSpace c = true := fun hc => by simp [take?_of_isSpace hc] at h
    rw [scan?, if_neg hspace]
    split
    next heq => rw [h] at heq; cases heq
    next heq =>
      rw [h] at heq
      obtain ⟨rfl, rfl⟩ := Prod.mk.inj (Option.some.inj heq)
      rfl

theorem scan?_lineBreak (layout : Layout) (depth : Nat) (cs : List Char) :
    scan? (layout.lineBreak depth ++ cs) = scan? cs := by
  cases layout with
  | compact => rfl
  | indented =>
    have hspaces : ∀ n, scan? (List.replicate n ' ' ++ cs) = scan? cs := by
      intro n
      induction n with
      | zero => rfl
      | succ n ih => rw [List.replicate_succ, List.cons_append, scan?_space (by decide), ih]
    rw [Layout.lineBreak, List.cons_append, scan?_space (by decide), hspaces]

theorem scan?_colon (layout : Layout) (cs : List Char) :
    scan? (layout.colon ++ cs) = (scan? cs).map (colon :: ·) := by
  cases layout with
  | compact => exact scan?_of_take? rfl
  | indented =>
    rw [← scan?_space (c := ' ') (by decide) cs]
    exact scan?_of_take? rfl

/-- The text is scanned as the tokens, unless what follows could go on with a numeral. -/
def Scans (text : List Char) (tokens : List Token) : Prop :=
  ∀ rest, Numeral.Stops rest → scan? (text ++ rest) = (scan? rest).map (tokens ++ ·)

theorem scans_of_take? {text : List Char} {token : Token}
    (h : ∀ rest, Numeral.Stops rest → take? (text ++ rest) = some (token, rest)) : Scans text [token] :=
  fun rest hrest => scan?_of_take? (h rest hrest)

end Token

end Json

end RowQuery
