import RowQuery.Proofs.Decimals
import RowQuery.Proofs.NumeralGrammar
/-!
# Numerals of decimals

The plain text of a decimal is a numeral, and it reads as the double the decimal stands for. Its
digits are those of the significand, with zeros where a place has no digit.
-/

namespace RowQuery

namespace Numeral

/-! ## The numeral of digits -/

theorem withSign_append (negative : Bool) (cs rest : List Char) :
    withSign negative cs ++ rest = withSign negative (cs ++ rest) := by
  cases negative <;> rfl

/-- A mantissa behind the sign of a negative number is a numeral without exponent. -/
theorem parse?_mantissa (negative : Bool) {mantissa whole fraction : List Char}
    (h : IsMantissa mantissa whole fraction) :
    parse? (withSign negative mantissa) = some ⟨negative, whole, fraction, 0⟩ := by
  rw [parse?_eq_some_iff, ← List.append_nil mantissa]
  cases negative with
  | true => exact .intro .minus h .none
  | false => exact .intro .none h .none

theorem parse?_whole (negative : Bool) {whole : List Char} (hne : whole ≠ [])
    (h : ∀ c ∈ whole, c.isDigit = true) :
    parse? (withSign negative whole) = some ⟨negative, whole, [], 0⟩ :=
  parse?_mantissa negative (.whole ⟨hne, h⟩)

theorem parse?_point (negative : Bool) {whole fraction : List Char} (hne : whole ≠ [])
    (hwhole : ∀ c ∈ whole, c.isDigit = true) (hfraction : ∀ c ∈ fraction, c.isDigit = true) :
    parse? (withSign negative (whole ++ '.' :: fraction)) = some ⟨negative, whole, fraction, 0⟩ :=
  parse?_mantissa negative (.point ⟨hne, hwhole⟩ hfraction)

/-! ## The number of digits -/

theorem natural_digitsOf (n : Nat) : natural (digitsOf n) = n := Nat.ofDigitChars_ten_toDigits

theorem natural_append_zeros (digits : List Char) (k : Nat) :
    natural (digits ++ List.replicate k '0') = natural digits * 10 ^ k := by
  unfold natural
  rw [Nat.ofDigitChars_append, Nat.ofDigitChars_replicate_zero, Nat.mul_comm]

theorem natural_zeros_append (k : Nat) (digits : List Char) :
    natural (List.replicate k '0' ++ digits) = natural digits := by
  unfold natural
  rw [Nat.ofDigitChars_append, Nat.ofDigitChars_replicate_zero, Nat.mul_zero]

theorem mul_pow_le_ofDigitChars (significand : Nat) (digits : List Char) :
    significand * 10 ^ digits.length ≤ Nat.ofDigitChars 10 digits significand := by
  rw [Nat.ofDigitChars_eq_ofDigitChars_zero, Nat.mul_comm]
  exact Nat.le_add_right _ _

theorem le_ofDigitChars (significand : Nat) (digits : List Char) :
    significand ≤ Nat.ofDigitChars 10 digits significand :=
  Nat.le_trans (Nat.le_mul_of_pos_right _ (Double.ten_pow_pos _)) (mul_pow_le_ofDigitChars significand digits)

theorem natural_lt {digits : List Char} (h : ∀ c ∈ digits, c.isDigit = true) : natural digits < 10 ^ digits.length := by
  have hbound : ∀ significand, Nat.ofDigitChars 10 digits significand < (significand + 1) * 10 ^ digits.length := by
    induction digits with
    | nil => simp
    | cons c digits ih =>
      intro significand
      obtain ⟨hc, hdigits⟩ := List.forall_mem_cons.1 h
      have hrange := Text.toNat_of_isDigit hc
      have hpow : 10 ^ (digits.length + 1) = 10 ^ digits.length * 10 := Nat.pow_succ _ _
      rw [Nat.ofDigitChars_cons, List.length_cons, hpow, Nat.mul_comm (10 ^ digits.length), ← Nat.mul_assoc]
      refine Nat.lt_of_lt_of_le (ih hdigits _) (Nat.mul_le_mul_right _ ?_)
      have hzero : '0'.toNat = 48 := rfl
      omega
  simpa [natural] using hbound 0

/-- A digit other than zero. -/
theorem natural_digit {c : Char} (h : c.isDigit = true) (hzero : c ≠ '0') : 0 < natural [c] ∧ natural [c] < 10 := by
  have hrange := Text.toNat_of_isDigit h
  have hne : c.toNat ≠ 48 := fun heq => hzero (Char.toNat_inj.1 heq)
  have hvalue : natural [c] = 10 * 0 + (c.toNat - 48) := rfl
  omega

theorem isDigit_of_mem_digitsOf {n : Nat} : ∀ c ∈ digitsOf n, c.isDigit = true :=
  fun _ hc => Nat.isDigit_of_mem_toDigits (by decide) (by decide) hc

theorem ten_pow_le_of_digitsOf {n k : Nat} (hn : n ≠ 0) (h : k < (digitsOf n).length) : 10 ^ k ≤ n := by
  rcases Nat.eq_zero_or_pos k with rfl | hk
  · exact Nat.pos_of_ne_zero hn
  · exact Nat.not_lt.1 fun hlt => Nat.not_le.2 h ((Nat.length_toDigits_le_iff (by decide) hk).2 hlt)

/-- Digits start with a zero only for zero itself: behind a zero there are too few of them. -/
theorem head_digitsOf {n : Nat} (hn : n ≠ 0) : ∀ c ∈ (digitsOf n).head?, c ≠ '0' := by
  rintro c hc rfl
  obtain ⟨digits, hdigits⟩ := List.head?_eq_some_iff.1 hc
  have hle : 10 ^ digits.length ≤ n := ten_pow_le_of_digitsOf hn (by simp [hdigits])
  have hlt : natural digits < 10 ^ digits.length :=
    natural_lt fun c hc => isDigit_of_mem_digitsOf c (hdigits ▸ List.mem_cons_of_mem _ hc)
  have hvalue : natural digits = n := by
    rw [← natural_digitsOf n, hdigits]
    rfl
  omega

end Numeral

namespace Decimal

theorem isDigit_of_mem_digits {d : Decimal} : ∀ c ∈ d.digits, c.isDigit = true :=
  Numeral.isDigit_of_mem_digitsOf

theorem digits_ne_nil (d : Decimal) : d.digits ≠ [] := Nat.toDigits_ne_nil

theorem isDigit_of_mem_zeros {k : Nat} : ∀ c ∈ List.replicate k '0', c.isDigit = true :=
  fun _ hc => List.eq_of_mem_replicate hc ▸ rfl

/-- The plain text of a decimal is a numeral: its digits are those of the decimal, with the
zeros that stand for a positive exponent, and its fraction is as long as a negative one says. -/
theorem parse?_plain (negative : Bool) (d : Decimal) :
    ∃ whole fraction, Numeral.parse? (withSign negative d.plain) = some ⟨negative, whole, fraction, 0⟩ ∧
      Numeral.natural (whole ++ fraction) = d.significand * 10 ^ d.exponent.toNat ∧
      fraction.length = (-d.exponent).toNat := by
  have hall : ∀ c ∈ d.digits ++ List.replicate d.exponent.toNat '0', c.isDigit = true := fun c hc =>
    (List.mem_append.1 hc).elim (isDigit_of_mem_digits c) (isDigit_of_mem_zeros c)
  have hne : d.digits ++ List.replicate d.exponent.toNat '0' ≠ [] := by simp [d.digits_ne_nil]
  have hvalue : Numeral.natural (d.digits ++ List.replicate d.exponent.toNat '0') =
      d.significand * 10 ^ d.exponent.toNat := by
    rw [Numeral.natural_append_zeros, digits, Numeral.natural_digitsOf]
  unfold plain
  dsimp only
  generalize hplaces : (-d.exponent).toNat = places
  generalize d.digits ++ List.replicate d.exponent.toNat '0' = digits at hall hne hvalue
  -- The point stands nowhere, among the digits, or in front of them behind zeros.
  by_cases h0 : places = 0
  · rw [if_pos h0]
    exact ⟨digits, [], Numeral.parse?_whole negative hne hall, by simpa using hvalue, by simp [h0]⟩
  rw [if_neg h0]
  by_cases hlt : places < digits.length
  · rw [if_pos hlt]
    refine ⟨digits.take (digits.length - places), digits.drop (digits.length - places),
      Numeral.parse?_point negative ?_ (fun c hc => hall c (List.mem_of_mem_take hc))
        (fun c hc => hall c (List.mem_of_mem_drop hc)), ?_, ?_⟩
    · rw [← List.length_pos_iff, List.length_take]
      omega
    · rwa [List.take_append_drop]
    · rw [List.length_drop]
      omega
  · rw [if_neg hlt]
    refine ⟨['0'], List.replicate (places - digits.length) '0' ++ digits,
      Numeral.parse?_point negative (List.cons_ne_nil _ _) (isDigit_of_mem_zeros (k := 1)) ?_, ?_, ?_⟩
    · exact fun c hc => (List.mem_append.1 hc).elim (isDigit_of_mem_zeros c) (hall c)
    · rw [← hvalue]
      exact Numeral.natural_zeros_append (places - digits.length + 1) digits
    · rw [List.length_append, List.length_replicate]
      omega

/-- A decimal is read from its plain text as the double it stands for. -/
theorem toDouble_parse?_plain (negative : Bool) (d : Decimal) :
    ∃ n, Numeral.parse? (withSign negative d.plain) = some n ∧ n.toDouble = d.toDouble negative := by
  obtain ⟨whole, fraction, hparse, hvalue, hlength⟩ := parse?_plain negative d
  refine ⟨_, hparse, ?_⟩
  rw [Numeral.toDouble, hvalue, hlength, toDouble]
  rcases Int.le_total 0 d.exponent with he | he
  · rw [show (0 : Int) - ((-d.exponent).toNat : Int) = 0 by omega]
    exact Double.ofDecimal_mul_pow negative d.significand he
  · rw [show (0 : Int) - ((-d.exponent).toNat : Int) = d.exponent by omega,
      show d.exponent.toNat = 0 by omega, Nat.pow_zero, Nat.mul_one]

end Decimal

end RowQuery
