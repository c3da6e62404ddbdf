import RowQuery.Proofs.JsonNumeral
/-!
# The text of a double has a value

Written out without exponent, a double has few digits in front of the point, all of them are
read, and the others scale downwards. Written with an exponent it can be large; then what is read
of the digits of its shortest decimal scales to a number again (`scale?_of_shortest`). The bound
that shows this leaves out the last two numbers of the format. Their decimals are known.
-/

namespace RowQuery

namespace Json.Numeral

open RowQuery.Numeral (natural natural_lt natural_digit mul_pow_le_ofDigitChars ten_pow_le_of_digitsOf head_digitsOf)

/-- The value of a numeral whose whole part is read to its end, where some of its fraction
may be left unread. -/
theorem number?_eq_double? {l : Numeral} (h : l.fraction? ≠ none ∨ l.exponent? ≠ none) {whole significand : Nat}
    {read unread : List Char} (hwhole : gather 0 l.whole = (whole, []))
    (hfraction : l.fraction?.getD [] = read ++ unread)
    (hgather : gather whole (read ++ unread) = (significand, unread)) :
    l.number? = (double? l.negative significand (-read.length) (l.exponent?.getD 0)).map .double := by
  unfold number?
  rw [hwhole]
  dsimp only
  split
  next hnone hnone' => exact absurd h (by simp [hnone, hnone'])
  next =>
    rw [hfraction, hgather]
    simp

theorem significand_ne_zero {x : FiniteDouble} {d : Decimal} (h : d.toDouble x.negative = .finite x)
    (hne : x.absUnits ≠ 0) : d.significand ≠ 0 := by
  intro hzero
  rw [Decimal.toDouble, hzero, Double.ofDecimal_zero] at h
  exact signedZero_ne hne h

/-! ## Without exponent -/

/-- The decimal point goes behind the digits, somewhere among them, or in front of them. -/
theorem withFraction_parts {d : Decimal} (hd : d.significand ≠ 0) (hpoint : d.pointPosition ≤ 16) :
    ∃ whole fraction, withFraction d = whole ++ fractionText (some fraction) ∧ IsWhole whole ∧
      whole.length ≤ 16 ∧ fraction ≠ [] ∧ ∀ c ∈ fraction, c.isDigit = true := by
  have hne : d.digits ≠ [] := d.digits_ne_nil
  have hdigits : ∀ c ∈ d.digits, c.isDigit = true := Decimal.isDigit_of_mem_digits
  have hhead : ∀ c ∈ d.digits.head?, c ≠ '0' := head_digitsOf hd
  have hzeros : ∀ k, ∀ c ∈ List.replicate k '0', c.isDigit = true := fun _ => Decimal.isDigit_of_mem_zeros
  unfold Decimal.pointPosition at hpoint
  unfold withFraction Decimal.plain
  generalize d.digits = digits at *
  have hpos : 0 < digits.length := List.length_pos_iff.2 hne
  dsimp only
  by_cases he : 0 ≤ d.exponent
  · rw [if_pos he, if_pos (by omega)]
    refine ⟨_, ['0'], rfl, .of_head (by simp [hne]) ?_ ?_, ?_, by simp, hzeros 1⟩
    · exact fun c hc => (List.mem_append.1 hc).elim (hdigits c) (hzeros _ c)
    · rwa [List.head?_append_of_ne_nil _ hne]
    · rw [List.length_append, List.length_replicate]
      omega
  rw [if_neg he, if_neg (by omega), show d.exponent.toNat = 0 by omega, List.replicate_zero, List.append_nil]
  by_cases hlt : (-d.exponent).toNat < digits.length
  · rw [if_pos hlt]
    refine ⟨_, _, rfl, .of_head ?_ ?_ ?_, ?_, ?_, ?_⟩
    · rw [← List.length_pos_iff, List.length_take]
      omega
    · exact fun c hc => hdigits c (List.mem_of_mem_take hc)
    · rwa [List.head?_take, if_neg (by omega)]
    · rw [List.length_take]
      omega
    · rw [← List.length_pos_iff, List.length_drop]
      omega
    · exact fun c hc => hdigits c (List.mem_of_mem_drop hc)
  · rw [if_neg hlt]
    refine ⟨['0'], _, rfl, ⟨by simp, hzeros 1, by simp⟩, by decide, by simp [hne], ?_⟩
    exact fun c hc => (List.mem_append.1 hc).elim (hzeros _ c) (hdigits c)

/-- A numeral with a fraction and no exponent has a value if its whole part is below the limit:
all of that is read, and the fraction scales downwards. -/
theorem number?_point (negative : Bool) {whole : List Char} (hwhole : natural whole < 2 ^ 64)
    (fraction : List Char) : ∃ y, number? ⟨negative, whole, some fraction, none⟩ = some (.double y) := by
  obtain ⟨read, unread, rfl, hgather, hlt⟩ := gather_parts hwhole fraction
  obtain ⟨y, hy⟩ := @double?_of_nonpos negative _ (-read.length) 0 hlt (by decide) (by omega)
  refine ⟨y, ?_⟩
  have hread : gather 0 whole = (natural whole, []) := gather_of_lt hwhole
  rw [number?_eq_double? (.inl (by simp)) hread rfl hgather]
  exact congrArg _ hy

theorem exists_spelled_withFraction (negative : Bool) {d : Decimal} (hd : d.significand ≠ 0)
    (hpoint : d.pointPosition ≤ 16) :
    ∃ (l : Numeral) (y : FiniteDouble), l.WellFormed ∧ withSign negative (withFraction d) = l.spelled ∧
      l.number? = some (.double y) := by
  obtain ⟨whole, fraction, htext, hwhole, hlength, hfraction⟩ := withFraction_parts hd hpoint
  have hlt : natural whole < 2 ^ 64 :=
    Nat.lt_of_lt_of_le (natural_lt hwhole.isDigit) (Nat.le_trans (Double.ten_pow_le hlength) (by decide))
  obtain ⟨y, hy⟩ := number?_point negative hlt fraction
  refine ⟨⟨negative, whole, some fraction, none⟩, y, ⟨hwhole, by simpa using hfraction⟩, ?_, hy⟩
  rw [htext, spelled, exponentText, List.append_nil]

/-! ## The last two numbers -/

theorem shortest_last {x : FiniteDouble} (h : Double.magnitudeCount < x.magnitude.val + 3) :
    x.shortest .even = ⟨17976931348623157, 292⟩ ∨ x.shortest .even = ⟨17976931348623155, 292⟩ := by
  obtain ⟨negative, magnitude, hm⟩ := x
  have hcases : magnitude = Double.magnitudeCount - 1 ∨ magnitude = Double.magnitudeCount - 2 := by
    dsimp only at h
    omega
  rcases hcases with rfl | rfl
  · left
    cases negative <;> decide +kernel +revert
  · right
    cases negative <;> decide +kernel +revert

/-- Their digits are all read, and the scaling is evaluated. -/
theorem scale?_of_last {x : FiniteDouble} (h : Double.magnitudeCount < x.magnitude.val + 3) :
    (x.shortest .even).significand < 2 ^ 64 ∧ (x.shortest .even).pointPosition = 309 ∧
      ∃ y, scale? (.ofNat (x.shortest .even).significand) (x.shortest .even).exponent = some y := by
  rcases shortest_last h with heq | heq
  all_goals
    rw [heq]
    refine ⟨by decide, by decide +kernel, ?_⟩
    change ∃ y, scale? _ (292 : Nat) = some y
    rw [scale?_of_le _ (by decide)]
    exact Option.isSome_iff_exists.1 (by decide +kernel)

/-! ## With an exponent -/

/-- What is read of the digits of a shortest decimal scales to a number. -/
theorem scale?_of_shortest {x : FiniteDouble} {first significand : Nat} {digits unread : List Char}
    (hgather : gather first digits = (significand, unread)) (hpos : 0 < significand) (hlt : significand < 2 ^ 64)
    (hdigits : Nat.ofDigitChars 10 digits first = (x.shortest .even).significand)
    (hunread : Nat.ofDigitChars 10 unread significand = (x.shortest .even).significand) :
    ∃ y, scale? (.ofNat significand) (unread.length + (x.shortest .even).exponent) = some y := by
  rcases Nat.lt_or_ge Double.magnitudeCount (x.magnitude.val + 3) with hlast | hlast
  -- Nothing is left unread of the last two numbers, so what is read is the decimal itself.
  · obtain ⟨hsize, -, y, hy⟩ := scale?_of_last hlast
    rw [gather_of_lt (hdigits ▸ hsize), hdigits] at hgather
    obtain ⟨rfl, rfl⟩ := Prod.mk.inj hgather
    exact ⟨y, by simpa using hy⟩
  · exact scale?_of_decimal (x.toDouble_shortest .even) hlast hpos hlt
      (hunread ▸ mul_pow_le_ofDigitChars significand unread)

theorem pointPosition_le {x : FiniteDouble} (hne : x.absUnits ≠ 0) : (x.shortest .even).pointPosition ≤ 309 := by
  rcases Nat.lt_or_ge Double.magnitudeCount (x.magnitude.val + 3) with hlast | hlast
  · exact (scale?_of_last hlast).2.1.le
  · have hread := x.toDouble_shortest .even
    have hpos := List.length_pos_iff.2 (x.shortest .even).digits_ne_nil
    have hplaces : 10 ^ ((x.shortest .even).digits.length - 1) ≤ (x.shortest .even).significand :=
      ten_pow_le_of_digitsOf (significand_ne_zero hread hne) (Nat.sub_one_lt_of_lt hpos)
    have := exponent_le_of_decimal hread hlast hplaces
    unfold Decimal.pointPosition
    omega

/-- The first digit of a shortest decimal is read on its own, and then as many of the others as
fit the limit. -/
theorem gather_of_shortest {x : FiniteDouble} (hne : x.absUnits ≠ 0) {digit : Char} {digits : List Char}
    (h : (x.shortest .even).digits = digit :: digits) :
    ∃ first significand read unread, digits = read ++ unread ∧ gather 0 [digit] = (first, []) ∧
      gather first (read ++ unread) = (significand, unread) ∧
      ∃ y, scale? (.ofNat significand) (unread.length + (x.shortest .even).exponent) = some y := by
  have hvalue : natural (x.shortest .even).digits = (x.shortest .even).significand :=
    RowQuery.Numeral.natural_digitsOf _
  have hdigit : digit.isDigit = true := Decimal.isDigit_of_mem_digits digit (h ▸ List.mem_cons_self)
  have hhead : digit ∈ (x.shortest .even).digits.head? := by
    rw [h]
    rfl
  obtain ⟨hpos, hten⟩ := natural_digit hdigit
    (head_digitsOf (significand_ne_zero (x.toDouble_shortest .even) hne) digit hhead)
  have hfirst : natural [digit] < 2 ^ 64 := Nat.lt_trans hten (by decide)
  obtain ⟨read, unread, rfl, hgather, hlt⟩ := gather_parts hfirst digits
  rw [h] at hvalue
  refine ⟨_, _, read, unread, rfl, gather_of_lt hfirst, hgather, ?_⟩
  have hsignificand : 0 < Nat.ofDigitChars 10 read (natural [digit]) :=
    Nat.lt_of_lt_of_le hpos (RowQuery.Numeral.le_ofDigitChars _ read)
  exact scale?_of_shortest hgather hsignificand hlt hvalue ((Nat.ofDigitChars_append _).symm.trans hvalue)

/-- One digit stands before the point, and the others make the fraction. -/
theorem scientific_parts (d : Decimal) :
    ∃ digit fraction?, d.digits = digit :: fraction?.getD [] ∧ (∀ fraction ∈ fraction?, fraction ≠ []) ∧
      scientific d = [digit] ++ fractionText fraction? ++ exponentText (some (d.pointPosition - 1)) := by
  unfold scientific
  obtain ⟨digit, digits, hdigits⟩ := List.exists_cons_of_ne_nil d.digits_ne_nil
  rw [hdigits]
  cases digits with
  | nil => exact ⟨digit, none, rfl, by simp, rfl⟩
  | cons next digits => exact ⟨digit, some (next :: digits), rfl, by simp, rfl⟩

/-- Digits that are left unread are made up for in the exponent, so the value is there however
many are read. -/
theorem number?_scientific {x : FiniteDouble} (hne : x.absUnits ≠ 0) (negative : Bool) {digit : Char}
    {fraction? : Option (List Char)} (hdigits : (x.shortest .even).digits = digit :: fraction?.getD []) :
    ∃ y, number? ⟨negative, [digit], fraction?, some ((x.shortest .even).pointPosition - 1)⟩ = some (.double y) := by
  obtain ⟨first, significand, read, unread, hsplit, hfirst, hgather, hscale⟩ := gather_of_shortest hne hdigits
  have hpower : -(read.length : Int) + ((x.shortest .even).pointPosition - 1) =
      unread.length + (x.shortest .even).exponent := by
    rw [Decimal.pointPosition, hdigits, hsplit, List.length_cons, List.length_append]
    omega
  have hlimit : (x.shortest .even).pointPosition - 1 ≤ exponentLimit :=
    Int.le_trans (Int.sub_le_sub_right (pointPosition_le hne) 1) (by decide)
  obtain ⟨y, hy⟩ := double?_of_scale? negative hlimit (hpower ▸ hscale)
  refine ⟨y, ?_⟩
  rw [number?_eq_double? (.inr (by simp)) hfirst hsplit hgather]
  exact congrArg _ hy

theorem exists_spelled_scientific {x : FiniteDouble} (hne : x.absUnits ≠ 0) (negative : Bool) :
    ∃ (l : Numeral) (y : FiniteDouble), l.WellFormed ∧
      withSign negative (scientific (x.shortest .even)) = l.spelled ∧ l.number? = some (.double y) := by
  obtain ⟨digit, fraction?, hdigits, hfraction, htext⟩ := scientific_parts (x.shortest .even)
  obtain ⟨y, hy⟩ := number?_scientific hne negative hdigits
  have hall : ∀ c ∈ digit :: fraction?.getD [], c.isDigit = true := hdigits ▸ Decimal.isDigit_of_mem_digits
  have hwhole : IsWhole [digit] := ⟨by simp, by simpa using hall digit (by simp), by simp⟩
  refine ⟨⟨negative, [digit], fraction?, _⟩, y, ⟨hwhole, ?_⟩, by rw [htext, spelled], hy⟩
  intro fraction hmem
  obtain rfl := Option.mem_def.1 hmem
  exact ⟨hfraction fraction rfl, fun c hc => hall c (List.mem_cons_of_mem digit hc)⟩

/-- The text of a number that is not written as an integer is a numeral with a value. -/
theorem exists_spelled_double {x : FiniteDouble} (h : x.integer? = none) :
    ∃ (l : Numeral) (y : FiniteDouble), l.WellFormed ∧ doubleText x = l.spelled ∧ l.number? = some (.double y) := by
  have hne := FiniteDouble.absUnits_ne_zero_of_integer? h
  unfold doubleText
  dsimp only
  split
  next hpoint =>
    exact exists_spelled_withFraction x.negative (significand_ne_zero (x.toDouble_shortest .even) hne) hpoint.2
  next => exact exists_spelled_scientific hne x.negative

end Json.Numeral

end RowQuery
