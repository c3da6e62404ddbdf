import RowQuery.Proofs.Text
/-!
# The grammar of numerals

A numeral is a sign, a mantissa and an exponent, of which only the mantissa must be there. The
mantissa is digits with or without a point behind them and a fraction behind that, or a point with
a fraction alone (`Numeral.Spells`). Text is read as a numeral exactly when it is spelled like
this, and then there is one numeral that it spells (`Numeral.parse?_eq_some_iff`).

In particular a numeral is made of a few ASCII characters and starts with no letter.
-/

namespace RowQuery

namespace Numeral

/-! ## The grammar -/

/-- One digit or more. Only those of ASCII are digits here. -/
structure IsDigits (cs : List Char) : Prop where
  ne_nil : cs ≠ []
  digits : ∀ c ∈ cs, c.isDigit = true

/-- A sign or none, and whether the number is negative. -/
inductive IsSign : List Char → Bool → Prop
  | none : IsSign [] false
  | plus : IsSign ['+'] false
  | minus : IsSign ['-'] true

/-- A mantissa, with its digits in front of the point and behind it. -/
inductive IsMantissa : List Char → List Char → List Char → Prop
  | whole {whole : List Char} (digits : IsDigits whole) : IsMantissa whole whole []
  | point {whole fraction : List Char} (digits : IsDigits whole)
    (further : ∀ c ∈ fraction, c.isDigit = true) : IsMantissa (whole ++ '.' :: fraction) whole fraction
  | fraction {fraction : List Char} (digits : IsDigits fraction) : IsMantissa ('.' :: fraction) [] fraction

/-- An exponent or none, and the power of ten that it says. -/
inductive IsExponent : List Char → Int → Prop
  | none : IsExponent [] 0
  | marked {mark : Char} {sign digits : List Char} {negative : Bool} (letter : mark = 'e' ∨ mark = 'E')
    (signed : IsSign sign negative) (number : IsDigits digits) :
    IsExponent (mark :: (sign ++ digits)) (if negative then -(natural digits : Int) else natural digits)

/-- The text is a numeral with these parts, and nothing else. -/
inductive Spells : Numeral → List Char → Prop
  | intro {sign mantissa tail whole fraction : List Char} {negative : Bool} {exponent : Int}
    (signed : IsSign sign negative) (digits : IsMantissa mantissa whole fraction)
    (scaled : IsExponent tail exponent) :
    Spells ⟨negative, whole, fraction, exponent⟩ (sign ++ (mantissa ++ tail))

/-! ## Reading the parts -/

theorem IsDigits.head {cs : List Char} (h : IsDigits cs) : ∃ c rest, cs = c :: rest ∧ c.isDigit = true := by
  obtain ⟨c, rest, rfl⟩ := List.exists_cons_of_ne_nil h.ne_nil
  exact ⟨c, rest, rfl, h.digits c List.mem_cons_self⟩

theorem ne_of_isDigit {c mark : Char} (hc : c.isDigit = true) (hmark : mark.isDigit = false) : c ≠ mark := by
  rintro rfl
  rw [hc] at hmark
  cases hmark

theorem exists_sign (cs : List Char) :
    ∃ sign negative body, IsSign sign negative ∧ cs = sign ++ body ∧ splitSign cs = (negative, body) := by
  unfold splitSign
  split
  next body => exact ⟨['+'], false, body, .plus, rfl, rfl⟩
  next body => exact ⟨['-'], true, body, .minus, rfl, rfl⟩
  next => exact ⟨[], false, cs, .none, rfl, rfl⟩

/-- Without a sign in front, what follows must not look like one. -/
theorem IsSign.splitSign_append {sign : List Char} {negative : Bool} (h : IsSign sign negative) {rest : List Char}
    (hrest : ∀ c ∈ rest.head?, c ≠ '+' ∧ c ≠ '-') : splitSign (sign ++ rest) = (negative, rest) := by
  cases h with
  | none =>
    cases rest with
    | nil => rfl
    | cons c cs =>
      obtain ⟨hplus, hminus⟩ := hrest c rfl
      simp [splitSign, hplus, hminus]
  | plus => rfl
  | minus => rfl

theorem IsSign.splitSign_digits {sign digits : List Char} {negative : Bool} (h : IsSign sign negative)
    (hdigits : IsDigits digits) : splitSign (sign ++ digits) = (negative, digits) := by
  obtain ⟨c, rest, rfl, hc⟩ := hdigits.head
  refine h.splitSign_append ?_
  rintro d ⟨⟩
  exact ⟨ne_of_isDigit hc (by decide), ne_of_isDigit hc (by decide)⟩

theorem exponent?_eq_some_iff {cs : List Char} {e : Int} : exponent? cs = some e ↔ IsExponent cs e := by
  constructor
  · intro h
    cases cs with
    | nil =>
      obtain rfl := Option.some.inj h
      exact .none
    | cons mark cs =>
      obtain ⟨sign, negative, digits, hsign, rfl, hsplit⟩ := exists_sign cs
      simp only [exponent?, hsplit] at h
      split at h
      next hparts =>
        obtain ⟨hmark, hne, hall⟩ := hparts
        obtain rfl := Option.some.inj h
        exact .marked hmark hsign ⟨hne, List.all_eq_true.1 hall⟩
      next => cases h
  · intro h
    cases h with
    | none => rfl
    | marked letter signed number =>
      simp only [exponent?, signed.splitSign_digits number]
      exact if_pos ⟨letter, number.ne_nil, List.all_eq_true.2 number.digits⟩

/-- The digits in front form a mantissa, with a point and the digits behind it if there is one. -/
theorem exists_mantissa {body whole fraction tail : List Char} (hwhole : body.takeWhile Char.isDigit = whole)
    (hsplit : splitFraction (body.dropWhile Char.isDigit) = (fraction, tail))
    (hne : ¬(whole = [] ∧ fraction = [])) :
    ∃ mantissa, IsMantissa mantissa whole fraction ∧ body = mantissa ++ tail := by
  have hbody : body = whole ++ body.dropWhile Char.isDigit := by rw [← hwhole, List.takeWhile_append_dropWhile]
  have hdigits : ∀ c ∈ whole, c.isDigit = true := fun c hc => List.mem_takeWhile_imp (hwhole ▸ hc)
  unfold splitFraction at hsplit
  split at hsplit
  next cs hcs =>
    obtain ⟨rfl, rfl⟩ := Prod.mk.inj hsplit
    have hfurther : ∀ c ∈ cs.takeWhile Char.isDigit, c.isDigit = true := fun c hc => List.mem_takeWhile_imp hc
    have hpoint : body = whole ++ '.' :: (cs.takeWhile Char.isDigit ++ cs.dropWhile Char.isDigit) := by
      rwa [List.takeWhile_append_dropWhile, ← hcs]
    by_cases hnil : whole = []
    · subst hnil
      exact ⟨_, .fraction ⟨fun h => hne ⟨rfl, h⟩, hfurther⟩, hpoint⟩
    · exact ⟨_, .point ⟨hnil, hdigits⟩ hfurther, by rw [hpoint, List.append_assoc, List.cons_append]⟩
  next =>
    obtain ⟨rfl, rfl⟩ := Prod.mk.inj hsplit
    exact ⟨whole, .whole ⟨fun h => hne ⟨h, rfl⟩, hdigits⟩, hbody⟩

/-- A mantissa ends where neither a digit nor a point follows. -/
theorem IsMantissa.split {mantissa whole fraction : List Char} (h : IsMantissa mantissa whole fraction)
    {tail : List Char} (htail : ∀ c ∈ tail.head?, c.isDigit = false ∧ c ≠ '.') :
    (mantissa ++ tail).takeWhile Char.isDigit = whole ∧
      splitFraction ((mantissa ++ tail).dropWhile Char.isDigit) = (fraction, tail) := by
  have hstop : ∀ c ∈ tail.head?, c.isDigit = false := fun c hc => (htail c hc).1
  have hpoint : ∀ cs : List Char, ∀ c ∈ ('.' :: cs).head?, c.isDigit = false := by
    rintro cs c ⟨⟩
    decide
  cases h with
  | whole digits =>
    obtain ⟨htake, hdrop⟩ := takeWhile_dropWhile_append digits.digits hstop
    refine ⟨htake, ?_⟩
    rw [hdrop]
    unfold splitFraction
    split
    next => exact absurd rfl (htail '.' rfl).2
    next => rfl
  | point digits further =>
    obtain ⟨htake, hdrop⟩ := takeWhile_dropWhile_append digits.digits (hpoint (fraction ++ tail))
    obtain ⟨hfraction, hrest⟩ := takeWhile_dropWhile_append further hstop
    rw [List.append_assoc, List.cons_append]
    refine ⟨htake, ?_⟩
    rw [hdrop, splitFraction, hfraction, hrest]
  | fraction digits =>
    obtain ⟨hfraction, hrest⟩ := takeWhile_dropWhile_append digits.digits hstop
    refine ⟨rfl, ?_⟩
    show splitFraction ('.' :: (fraction ++ tail)) = (fraction, tail)
    rw [splitFraction, hfraction, hrest]

/-- A mantissa starts with a digit or the point, and so with no sign. -/
theorem IsMantissa.head {mantissa whole fraction : List Char} (h : IsMantissa mantissa whole fraction) :
    ∃ c rest, mantissa = c :: rest ∧ (c.isDigit = true ∨ c = '.') := by
  cases h with
  | whole digits =>
    obtain ⟨c, rest, hcs, hc⟩ := digits.head
    exact ⟨c, rest, hcs, .inl hc⟩
  | point digits _ =>
    obtain ⟨c, rest, hcs, hc⟩ := digits.head
    exact ⟨c, rest ++ '.' :: fraction, by rw [hcs, List.cons_append], .inl hc⟩
  | fraction _ => exact ⟨'.', fraction, rfl, .inr rfl⟩

theorem IsExponent.head {tail : List Char} {e : Int} (h : IsExponent tail e) :
    ∀ c ∈ tail.head?, c.isDigit = false ∧ c ≠ '.' := by
  cases h with
  | none => simp
  | marked letter _ _ =>
    rintro c ⟨⟩
    rcases letter with rfl | rfl <;> decide

/-! ## Reading a numeral -/

/-- **Text is read as a numeral exactly when it spells one.** -/
theorem parse?_eq_some_iff {cs : List Char} {n : Numeral} : parse? cs = some n ↔ n.Spells cs := by
  unfold parse?
  dsimp only
  constructor
  · intro h
    obtain ⟨sign, negative, body, hsign, rfl, hsplit⟩ := exists_sign cs
    rw [hsplit] at h
    dsimp only at h
    generalize hfraction : splitFraction (body.dropWhile Char.isDigit) = parts at h
    obtain ⟨fraction, tail⟩ := parts
    split at h
    next => cases h
    next hne =>
      obtain ⟨e, he, rfl⟩ := Option.map_eq_some_iff.1 h
      obtain ⟨mantissa, hmantissa, rfl⟩ := exists_mantissa rfl hfraction hne
      exact .intro hsign hmantissa (exponent?_eq_some_iff.1 he)
  · intro h
    cases h with
    | @intro sign mantissa tail whole fraction negative exponent signed digits scaled =>
      obtain ⟨hwhole, hfraction⟩ := digits.split scaled.head
      have hsign : splitSign (sign ++ (mantissa ++ tail)) = (negative, mantissa ++ tail) := by
        refine signed.splitSign_append ?_
        obtain ⟨c, rest, rfl, hc⟩ := digits.head
        rintro d ⟨⟩
        rcases hc with hc | rfl
        · exact ⟨ne_of_isDigit hc (by decide), ne_of_isDigit hc (by decide)⟩
        · decide
      have hne : ¬(whole = [] ∧ fraction = []) := by
        rintro ⟨rfl, rfl⟩
        cases digits with
        | whole digits => exact digits.ne_nil rfl
        | point digits _ => exact digits.ne_nil rfl
        | fraction digits => exact digits.ne_nil rfl
      rw [hsign]
      dsimp only
      rw [hwhole, hfraction]
      dsimp only
      rw [if_neg hne, exponent?_eq_some_iff.2 scaled]
      rfl

/-- No text spells two numerals. -/
theorem Spells.unique {cs : List Char} {n n' : Numeral} (h : n.Spells cs) (h' : n'.Spells cs) : n = n' :=
  Option.some.inj ((parse?_eq_some_iff.2 h).symm.trans (parse?_eq_some_iff.2 h'))

/-! ## The characters of a numeral -/

/-- The characters a numeral is made of. -/
def isNumeralChar (c : Char) : Bool := c.isDigit || ['+', '-', '.', 'e', 'E'].contains c

theorem isNumeralChar_of_isDigit {c : Char} (h : c.isDigit = true) : isNumeralChar c = true := by
  simp [isNumeralChar, h]

theorem IsSign.chars {sign : List Char} {negative : Bool} (h : IsSign sign negative) :
    ∀ c ∈ sign, isNumeralChar c = true := by
  cases h <;> simp [isNumeralChar]

theorem IsDigits.chars {digits : List Char} (h : IsDigits digits) : ∀ c ∈ digits, isNumeralChar c = true :=
  fun c hc => isNumeralChar_of_isDigit (h.digits c hc)

theorem IsMantissa.chars {mantissa whole fraction : List Char} (h : IsMantissa mantissa whole fraction) :
    ∀ c ∈ mantissa, isNumeralChar c = true := by
  have hpoint : isNumeralChar '.' = true := by decide
  cases h with
  | whole digits => exact digits.chars
  | point digits further =>
    exact List.forall_mem_append.2 ⟨digits.chars,
      List.forall_mem_cons.2 ⟨hpoint, fun c hc => isNumeralChar_of_isDigit (further c hc)⟩⟩
  | fraction digits => exact List.forall_mem_cons.2 ⟨hpoint, digits.chars⟩

theorem IsExponent.chars {tail : List Char} {e : Int} (h : IsExponent tail e) :
    ∀ c ∈ tail, isNumeralChar c = true := by
  cases h with
  | none => simp
  | marked letter signed number =>
    refine List.forall_mem_cons.2 ⟨?_, List.forall_mem_append.2 ⟨signed.chars, number.chars⟩⟩
    rcases letter with rfl | rfl <;> decide

theorem forall_isNumeralChar {cs : List Char} {n : Numeral} (h : parse? cs = some n) :
    ∀ c ∈ cs, isNumeralChar c = true := by
  obtain ⟨signed, digits, scaled⟩ := parse?_eq_some_iff.1 h
  exact List.forall_mem_append.2 ⟨signed.chars,
    List.forall_mem_append.2 ⟨digits.chars, scaled.chars⟩⟩

/-- A numeral is not empty, and starts with a digit, a sign or a point. -/
theorem head_of_parse? {cs : List Char} {n : Numeral} (h : parse? cs = some n) :
    ∃ c rest, cs = c :: rest ∧ c.isAlpha = false := by
  obtain ⟨signed, digits, scaled⟩ := parse?_eq_some_iff.1 h
  cases signed with
  | none =>
    obtain ⟨c, rest, rfl, hc⟩ := digits.head
    refine ⟨c, _, rfl, ?_⟩
    rcases hc with hc | rfl
    · exact Text.isAlpha_of_isDigit hc
    · decide
  | plus => exact ⟨'+', _, rfl, by decide⟩
  | minus => exact ⟨'-', _, rfl, by decide⟩

theorem isBlank_of_isNumeralChar {c : Char} (h : isNumeralChar c = true) : Text.isBlank c = false := by
  simp only [isNumeralChar, Bool.or_eq_true, List.contains_iff_mem, List.mem_cons, List.not_mem_nil,
    or_false] at h
  rcases h with h | rfl | rfl | rfl | rfl | rfl
  · exact Text.isBlank_of_isDigit h
  all_goals decide

theorem isQuote_of_isNumeralChar {c : Char} (h : isNumeralChar c = true) : isQuote c = false := by
  rw [Bool.eq_false_iff]
  intro hq
  rcases isQuote_iff.1 hq with rfl | rfl <;> exact absurd h (by decide)

/-- There is nothing to trim off a numeral. -/
theorem trim_of_parse? {cs : List Char} {n : Numeral} (h : parse? cs = some n) : Text.trim cs = cs :=
  Text.trim_of_forall fun c hc => isBlank_of_isNumeralChar (forall_isNumeralChar h c hc)

end Numeral

end RowQuery
