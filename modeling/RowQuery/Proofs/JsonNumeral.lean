import RowQuery.Proofs.PlainText
import RowQuery.Proofs.Scaling
/-!
# JSON numerals read back

A numeral that is written by its parts is taken apart into these parts (`take?_spelled`), as long
as no character of a numeral follows. Its digits are gathered up to the limit of the significand,
and all of them if they stand for a number below the limit; so the text of an integer reads as
this integer.
-/

namespace RowQuery

namespace Json.Numeral

open RowQuery.Numeral (natural head_digitsOf isDigit_of_mem_digitsOf withSign_append)

/-! ## Where a numeral ends -/

/-- What follows a numeral goes on with no character of one. -/
def Stops (rest : List Char) : Prop := ∀ c ∈ rest.head?, RowQuery.Numeral.isNumeralChar c = false

theorem stops_nil : Stops [] := by simp [Stops]

theorem stops_cons {c : Char} (cs : List Char) (h : RowQuery.Numeral.isNumeralChar c = false) : Stops (c :: cs) := by
  simpa [Stops] using h

theorem Stops.isDigit {rest : List Char} (h : Stops rest) : ∀ c ∈ rest.head?, c.isDigit = false := by
  intro c hc
  have := h c hc
  simp only [RowQuery.Numeral.isNumeralChar, Bool.or_eq_false_iff] at this
  exact this.1

theorem Stops.ne {rest : List Char} (h : Stops rest) {mark : Char}
    (hmark : RowQuery.Numeral.isNumeralChar mark = true) : ∀ c ∈ rest.head?, c ≠ mark := by
  rintro c hc rfl
  rw [h c hc] at hmark
  cases hmark

/-! ## Numerals as they are written -/

/-- Digits that can stand before a point: a zero only alone. -/
structure IsWhole (whole : List Char) : Prop where
  ne_nil : whole ≠ []
  isDigit : ∀ c ∈ whole, c.isDigit = true
  leading : ∀ c ∈ whole.head?, c = '0' → whole = ['0']

theorem IsWhole.of_head {whole : List Char} (hne : whole ≠ []) (hdigits : ∀ c ∈ whole, c.isDigit = true)
    (h : ∀ c ∈ whole.head?, c ≠ '0') : IsWhole whole :=
  ⟨hne, hdigits, fun c hc hzero => absurd hzero (h c hc)⟩

theorem isWhole_digitsOf (n : Nat) : IsWhole (digitsOf n) := by
  by_cases hn : n = 0
  · rw [hn]
    exact ⟨by decide, isDigit_of_mem_digitsOf, fun _ _ _ => rfl⟩
  · exact .of_head Nat.toDigits_ne_nil isDigit_of_mem_digitsOf (head_digitsOf hn)

/-- The grammar of numerals. -/
structure WellFormed (l : Numeral) : Prop where
  whole : IsWhole l.whole
  fraction : ∀ fraction ∈ l.fraction?, fraction ≠ [] ∧ ∀ c ∈ fraction, c.isDigit = true

def fractionText : Option (List Char) → List Char
  | none => []
  | some fraction => '.' :: fraction

/-- An exponent is written with a sign in any case. -/
def exponentText : Option Int → List Char
  | none => []
  | some power => 'e' :: (if power < 0 then '-' else '+') :: digitsOf power.natAbs

def spelled (l : Numeral) : List Char :=
  withSign l.negative (l.whole ++ fractionText l.fraction? ++ exponentText l.exponent?)

/-! ## Taking a numeral apart -/

theorem takeDigits?_append {digits rest : List Char} (hne : digits ≠ [])
    (hdigits : ∀ c ∈ digits, c.isDigit = true) (hstop : ∀ c ∈ rest.head?, c.isDigit = false) :
    takeDigits? (digits ++ rest) = some (digits, rest) := by
  obtain ⟨htake, hdrop⟩ := takeWhile_dropWhile_append hdigits hstop
  unfold takeDigits?
  rw [htake, hdrop]
  simp [hne]

theorem takeWhole?_append {whole rest : List Char} (h : IsWhole whole)
    (hstop : ∀ c ∈ rest.head?, c.isDigit = false) : takeWhole? (whole ++ rest) = some (whole, rest) := by
  unfold takeWhole?
  rw [takeDigits?_append h.ne_nil h.isDigit hstop]
  split
  next heq =>
    obtain ⟨rfl, -⟩ := Prod.mk.inj (Option.some.inj heq)
    cases h.leading '0' rfl rfl
  next => rfl

theorem takeFraction?_append {fraction? : Option (List Char)} {rest : List Char}
    (h : ∀ fraction ∈ fraction?, fraction ≠ [] ∧ ∀ c ∈ fraction, c.isDigit = true)
    (hstop : ∀ c ∈ rest.head?, c.isDigit = false) (hpoint : ∀ c ∈ rest.head?, c ≠ '.') :
    takeFraction? (fractionText fraction? ++ rest) = some (fraction?, rest) := by
  cases fraction? with
  | none =>
    rw [fractionText, List.nil_append, takeFraction?]
    rintro cs rfl
    exact hpoint '.' rfl rfl
  | some fraction =>
    obtain ⟨hne, hdigits⟩ := h fraction rfl
    simp only [fractionText, List.cons_append, takeFraction?, takeDigits?_append hne hdigits hstop, Option.map_some]

theorem takeExponent?_append (exponent? : Option Int) {rest : List Char} (h : Stops rest) :
    takeExponent? (exponentText exponent? ++ rest) = some (exponent?, rest) := by
  cases exponent? with
  | none =>
    cases rest with
    | nil => rfl
    | cons c rest =>
      have hsmall : c ≠ 'e' := h.ne (by decide) c rfl
      have hcapital : c ≠ 'E' := h.ne (by decide) c rfl
      simp [exponentText, takeExponent?, hsmall, hcapital]
  | some power =>
    have hdigits : takeDigits? (digitsOf power.natAbs ++ rest) = some (digitsOf power.natAbs, rest) :=
      takeDigits?_append Nat.toDigits_ne_nil isDigit_of_mem_digitsOf h.isDigit
    have hnatural := RowQuery.Numeral.natural_digitsOf power.natAbs
    by_cases hneg : power < 0
    · simp [exponentText, takeExponent?, hneg, RowQuery.Numeral.splitSign, hdigits, hnatural, abs_of_neg hneg]
    · simp [exponentText, takeExponent?, hneg, RowQuery.Numeral.splitSign, hdigits, hnatural,
        abs_of_nonneg (Int.not_lt.1 hneg)]

/-- What stands in front of an exponent, or of what follows without one, is no digit and no point. -/
theorem head_exponentText (exponent? : Option Int) {rest : List Char} (h : Stops rest) :
    ∀ c ∈ (exponentText exponent? ++ rest).head?, c.isDigit = false ∧ c ≠ '.' := by
  cases exponent? with
  | none => exact fun c hc => ⟨h.isDigit c hc, h.ne (by decide) c hc⟩
  | some power =>
    rintro c ⟨⟩
    decide

theorem head_fractionText (fraction? : Option (List Char)) {rest : List Char}
    (h : ∀ c ∈ rest.head?, c.isDigit = false) : ∀ c ∈ (fractionText fraction? ++ rest).head?, c.isDigit = false := by
  cases fraction? with
  | none => exact h
  | some fraction =>
    rintro c ⟨⟩
    decide

/-- A numeral is read back from the way it is written. -/
theorem take?_spelled {l : Numeral} (h : l.WellFormed) {rest : List Char} (hrest : Stops rest) :
    take? (l.spelled ++ rest) = some (l, rest) := by
  obtain ⟨negative, whole, fraction?, exponent?⟩ := l
  have hexponent := takeExponent?_append exponent? hrest
  have hhead := head_exponentText exponent? hrest
  have hfraction := takeFraction?_append h.fraction (fun c hc => (hhead c hc).1) (fun c hc => (hhead c hc).2)
  have hwhole := takeWhole?_append h.whole (head_fractionText fraction? fun c hc => (hhead c hc).1)
  dsimp only at hwhole hfraction
  rw [spelled, withSign_append, List.append_assoc, List.append_assoc]
  cases negative with
  | true => simp [take?, withSign, hwhole, hfraction, hexponent]
  | false =>
    have hminus : ∀ cs, whole ++ (fractionText fraction? ++ (exponentText exponent? ++ rest)) ≠ '-' :: cs := by
      intro cs heq
      rw [heq] at hwhole
      cases hwhole
    simp [take?, withSign, hwhole, hfraction, hexponent]

/-! ## Gathering digits -/

/-- Digits are read up to some place, and the significand stays below the limit. -/
theorem gather_parts {significand : Nat} (hsize : significand < 2 ^ 64) (digits : List Char) :
    ∃ read unread, digits = read ++ unread ∧
      gather significand digits = (Nat.ofDigitChars 10 read significand, unread) ∧
      Nat.ofDigitChars 10 read significand < 2 ^ 64 := by
  induction digits generalizing significand with
  | nil => exact ⟨[], [], rfl, rfl, hsize⟩
  | cons c digits ih =>
    rw [gather]
    split
    next hlonger =>
      obtain ⟨read, unread, rfl, hgather, hlt⟩ := ih hlonger
      refine ⟨c :: read, unread, rfl, ?_, ?_⟩
      · rw [hgather, Nat.ofDigitChars_cons, Nat.mul_comm 10]
      · rwa [Nat.ofDigitChars_cons, Nat.mul_comm 10]
    next => exact ⟨[], c :: digits, rfl, rfl, hsize⟩

/-- Digits are all read if the number they stand for is below the limit. -/
theorem gather_of_lt {significand : Nat} {digits : List Char} (h : Nat.ofDigitChars 10 digits significand < 2 ^ 64) :
    gather significand digits = (Nat.ofDigitChars 10 digits significand, []) := by
  induction digits generalizing significand with
  | nil => rfl
  | cons c digits ih =>
    rw [Nat.ofDigitChars_cons, Nat.mul_comm 10] at h
    have hlonger := Nat.lt_of_le_of_lt (RowQuery.Numeral.le_ofDigitChars _ digits) h
    rw [gather, if_pos hlonger, ih h, Nat.ofDigitChars_cons, Nat.mul_comm 10]

/-! ## Integers -/

/-- The text of an integer of 63 bits and a sign is a numeral for this integer. -/
theorem exists_spelled_integer {n : Int} (h : n.natAbs < 2 ^ 63) :
    ∃ l : Numeral, l.WellFormed ∧ integerText n = l.spelled ∧ l.number? = some (.integer n) := by
  refine ⟨⟨n < 0, digitsOf n.natAbs, none, none⟩, ⟨isWhole_digitsOf _, by simp⟩, ?_, ?_⟩
  · simp [integerText, spelled, fractionText, exponentText]
  · have hvalue : Nat.ofDigitChars 10 (digitsOf n.natAbs) 0 = n.natAbs := RowQuery.Numeral.natural_digitsOf _
    have hgather := @gather_of_lt 0 (digitsOf n.natAbs) (by omega)
    unfold number?
    rw [hgather, hvalue]
    dsimp only
    rw [if_pos rfl, integer?]
    by_cases hneg : n < 0
    · rw [if_neg (by simp [hneg]), if_pos (by omega), show -(n.natAbs : Int) = n by omega]
    · rw [if_pos (by simp [hneg]), show (n.natAbs : Int) = n by omega]

end Json.Numeral

end RowQuery
