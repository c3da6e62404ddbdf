import RowQuery.Proofs.Nearest
/-!
# The nearest double

What rounding gives is the number of the format that is nearest to the exact one, and of two equally
near numbers the even one (`isNearest_nearestMagnitude`). There is one such number
(`IsNearest.unique`), so it does not matter in which way it is found: the tests that `ofDecimal`
answers without the power of ten change nothing, and a decimal is read as the number that is nearest
to it (`ofDecimal_eq_finite_iff`).

Numbers are taken without their sign here, and the magnitudes do not end: the first one that is no
finite number of the format any more stands for overflow.
-/

namespace RowQuery

namespace Double

/-! ## Spacing -/

theorem magnitudeUnits_add_le {shift significand : Nat} (hle : significand ≤ 2 ^ 53)
    (hnormal : shift = 0 ∨ 2 ^ 52 ≤ significand) :
    magnitudeUnits (shift * 2 ^ 52 + significand) + 2 ^ shift ≤
      magnitudeUnits (shift * 2 ^ 52 + (significand + 1)) := by
  rw [magnitudeUnits_shift hle hnormal]
  rcases Nat.eq_or_lt_of_le hle with rfl | hlt
  -- Above a power of two the spacing is twice as wide.
  · have hcarry : shift * 2 ^ 52 + (2 ^ 53 + 1) = (shift + 1) * 2 ^ 52 + (2 ^ 52 + 1) := by omega
    have hpow : 2 ^ (shift + 1) = 2 ^ shift * 2 := Nat.pow_succ _ _
    rw [hcarry, magnitudeUnits_shift (by decide) (.inr (by decide)), hpow]
    generalize 2 ^ shift = spacing
    omega
  · rw [magnitudeUnits_shift hlt (hnormal.imp_right Nat.le_succ_of_le), Nat.succ_mul]

/-- A larger magnitude is a larger number. -/
theorem magnitudeUnits_strictMono : StrictMono magnitudeUnits := by
  refine strictMono_nat_of_lt_succ fun m => ?_
  obtain ⟨shift, significand, hle, hnormal, rfl⟩ : ∃ shift significand,
      significand ≤ 2 ^ 53 ∧ (shift = 0 ∨ 2 ^ 52 ≤ significand) ∧ m = shift * 2 ^ 52 + significand := by
    rcases Nat.lt_or_ge m (2 ^ 52) with hlt | hge
    · exact ⟨0, m, by omega, .inl rfl, by omega⟩
    · exact ⟨m / 2 ^ 52 - 1, 2 ^ 52 + m % 2 ^ 52, by omega, .inr (by omega), by omega⟩
  have hnext := magnitudeUnits_add_le hle hnormal
  have hpos : 0 < 2 ^ shift := Nat.two_pow_pos shift
  rw [Nat.add_assoc]
  omega

/-! ## A rounded quotient and the middles between its neighbours -/

namespace IsRounding

variable {num den shift significand : Nat} (h : IsRounding num den shift significand)

include h

theorem product : significand * (den * 2 ^ shift) = magnitudeUnits (nearestMagnitude num den) * den := by
  rw [h.units, Nat.mul_assoc, Nat.mul_comm den]

theorem nearestMagnitude_even
    (half : 2 * (magnitudeUnits (nearestMagnitude num den) * den) = 2 * num + den * 2 ^ shift ∨
      2 * num = 2 * (magnitudeUnits (nearestMagnitude num den) * den) + den * 2 ^ shift) :
    nearestMagnitude num den % 2 = 0 := by
  rw [← h.product] at half
  have hmagnitude := h.magnitude
  have heven := h.even half
  omega

theorem middle_above :
    2 * num ≤ (magnitudeUnits (nearestMagnitude num den) + magnitudeUnits (nearestMagnitude num den + 1)) * den ∧
      ((magnitudeUnits (nearestMagnitude num den) + magnitudeUnits (nearestMagnitude num den + 1)) * den ≤ 2 * num →
        nearestMagnitude num den % 2 = 0) := by
  have hbelow := h.below
  have hgap := magnitudeUnits_add_le h.le h.normal
  rw [← Nat.add_assoc, ← h.magnitude] at hgap
  have hscaled := Nat.mul_le_mul_left den hgap
  have heven := h.nearestMagnitude_even
  rw [h.product] at hbelow
  rw [Nat.mul_add, Nat.mul_comm den (magnitudeUnits _), Nat.mul_comm den (magnitudeUnits _)] at hscaled
  rw [Nat.add_mul]
  exact ⟨by omega, fun hmiddle => heven (.inr (by omega))⟩

/-- At a power of two the spacing below is half as wide, but then the quotient is not below. -/
theorem middle_below (hden : 0 < den) {k : Nat} (hk : nearestMagnitude num den = k + 1) :
    (magnitudeUnits k + magnitudeUnits (nearestMagnitude num den)) * den ≤ 2 * num ∧
      (2 * num ≤ (magnitudeUnits k + magnitudeUnits (nearestMagnitude num den)) * den →
        nearestMagnitude num den % 2 = 0) := by
  have hmagnitude := h.magnitude
  have hle := h.le
  have hnormal := h.normal
  have hproduct := h.product
  rw [Nat.add_mul]
  by_cases hwide : shift = 0 ∨ 2 ^ 52 < significand
  · have habove := h.above
    have heven := h.nearestMagnitude_even
    have hgap : magnitudeUnits (shift * 2 ^ 52 + (significand - 1)) + 2 ^ shift ≤
        magnitudeUnits (shift * 2 ^ 52 + (significand - 1 + 1)) := magnitudeUnits_add_le (by omega) (by omega)
    rw [show shift * 2 ^ 52 + (significand - 1) = k by omega, show significand - 1 + 1 = significand by omega,
      ← hmagnitude] at hgap
    have hscaled := Nat.mul_le_mul_left den hgap
    rw [hproduct] at habove
    rw [Nat.mul_add, Nat.mul_comm den (magnitudeUnits _), Nat.mul_comm den (magnitudeUnits _)] at hscaled
    exact ⟨by omega, fun hmiddle => heven (.inl (by omega))⟩
  · have hspacing := h.spacing.resolve_left fun hshift => hwide (.inl hshift)
    have hlt := Nat.mul_lt_mul_of_pos_right (magnitudeUnits_strictMono (show k < k + 1 by omega)) hden
    rw [← hk] at hlt
    rw [show significand = 2 ^ 52 by omega] at hproduct
    rw [hproduct] at hspacing
    exact ⟨by omega, fun hmiddle => by omega⟩

end IsRounding

/-! ## Nearest numbers -/

/-- The number of a magnitude. -/
def magnitudeValue (m : Nat) : ℚ := magnitudeUnits m / unitsPerOne

/-- No magnitude is nearer to the number, and of two that are equally near this is the even one. -/
structure IsNearest (q : ℚ) (m : Nat) : Prop where
  least : ∀ k, |q - magnitudeValue m| ≤ |q - magnitudeValue k|
  even : ∀ k, k ≠ m → |q - magnitudeValue k| = |q - magnitudeValue m| → m % 2 = 0

theorem magnitudeValue_strictMono : StrictMono magnitudeValue := fun _ _ hab =>
  div_lt_div_of_pos_right (Nat.cast_lt.2 (magnitudeUnits_strictMono hab)) (Nat.cast_pos.2 unitsPerOne_pos)

/-- A number between two others is nearer to the larger one from the middle on. -/
theorem abs_sub_le_iff_of_lt {q a b : ℚ} (hab : a < b) : |q - b| ≤ |q - a| ↔ a + b ≤ 2 * q := by
  rw [← sq_le_sq]
  constructor
  · intro h
    nlinarith
  · intro h
    nlinarith

theorem abs_sub_ge_iff_of_lt {q a b : ℚ} (hab : a < b) : |q - a| ≤ |q - b| ↔ 2 * q ≤ a + b := by
  rw [← sq_le_sq]
  constructor
  · intro h
    nlinarith
  · intro h
    nlinarith

variable {q : ℚ} {m : Nat}

/-- It is enough to compare with the two neighbours. -/
theorem isNearest_of_neighbours
    (above : 2 * q ≤ magnitudeValue m + magnitudeValue (m + 1))
    (above_even : 2 * q = magnitudeValue m + magnitudeValue (m + 1) → m % 2 = 0)
    (below : ∀ k, m = k + 1 → magnitudeValue k + magnitudeValue m ≤ 2 * q)
    (below_even : ∀ k, m = k + 1 → magnitudeValue k + magnitudeValue m = 2 * q → m % 2 = 0) : IsNearest q m := by
  have hmono := magnitudeValue_strictMono
  refine ⟨fun k => ?_, fun k hne heq => ?_⟩
  · rcases Nat.lt_trichotomy k m with hlt | rfl | hgt
    · obtain ⟨p, rfl⟩ := Nat.exists_eq_add_one_of_ne_zero (Nat.ne_zero_of_lt hlt)
      have hle := hmono.monotone (Nat.lt_succ_iff.1 hlt)
      exact (abs_sub_le_iff_of_lt (hmono hlt)).2 (by linarith [below p rfl])
    · exact le_refl _
    · have hle := hmono.monotone (Nat.succ_le_of_lt hgt)
      exact (abs_sub_ge_iff_of_lt (hmono hgt)).2 (by linarith)
  · rcases Nat.lt_or_gt_of_ne hne with hlt | hgt
    · obtain ⟨p, rfl⟩ := Nat.exists_eq_add_one_of_ne_zero (Nat.ne_zero_of_lt hlt)
      have hle := hmono.monotone (Nat.lt_succ_iff.1 hlt)
      have hmiddle := (abs_sub_ge_iff_of_lt (hmono hlt)).1 heq.le
      exact below_even p rfl (by linarith [below p rfl])
    · have hle := hmono.monotone (Nat.succ_le_of_lt hgt)
      have hmiddle := (abs_sub_le_iff_of_lt (hmono hgt)).1 heq.le
      exact above_even (by linarith)

namespace IsNearest

/-- A number in the middle between two even magnitudes would be nearer to what is between them. -/
theorem unique {k : Nat} (h : IsNearest q m) (h' : IsNearest q k) : m = k := by
  have hmono := magnitudeValue_strictMono
  have hno : ∀ {a b : Nat}, IsNearest q a → IsNearest q b → ¬a < b := by
    intro a b ha hb hab
    have heq : |q - magnitudeValue a| = |q - magnitudeValue b| := le_antisymm (ha.least b) (hb.least a)
    have haeven := ha.even b (Nat.ne_of_gt hab) heq.symm
    have hbeven := hb.even a (Nat.ne_of_lt hab) heq
    have hmiddle := (abs_sub_le_iff_of_lt (hmono hab)).1 heq.ge
    have hnear := (abs_sub_ge_iff_of_lt (hmono (Nat.lt_succ_self a))).1 (ha.least (a + 1))
    have hlt := hmono (show a + 1 < b by omega)
    linarith
  exact Nat.le_antisymm (Nat.not_lt.1 (hno h' h)) (Nat.not_lt.1 (hno h h'))

end IsNearest

/-! ## Rounding -/

section
variable {num den : Nat} (hden : 0 < den) (hq : q * (den * unitsPerOne) = num)

include hden hq

/-- The middle between two numbers, compared in units over a common denominator. -/
theorem middle_scaled (a b : Nat) : ∃ scale : ℚ, 0 < scale ∧ 2 * q * scale = (2 * num : Nat) ∧
    (magnitudeValue a + magnitudeValue b) * scale = ((magnitudeUnits a + magnitudeUnits b) * den : Nat) := by
  have hone : (0 : ℚ) < unitsPerOne := Nat.cast_pos.2 unitsPerOne_pos
  have hden' : (0 : ℚ) < den := Nat.cast_pos.2 hden
  unfold magnitudeValue
  generalize unitsPerOne = one at *
  refine ⟨den * one, mul_pos hden' hone, ?_, ?_⟩
  · rw [mul_assoc, hq]
    push_cast
    ring
  · push_cast
    field_simp

theorem two_mul_le_iff (a b : Nat) : 2 * q ≤ magnitudeValue a + magnitudeValue b ↔
    2 * num ≤ (magnitudeUnits a + magnitudeUnits b) * den := by
  obtain ⟨scale, hscale, htwo, hsum⟩ := middle_scaled hden hq a b
  rw [← mul_le_mul_iff_left₀ hscale, htwo, hsum, Nat.cast_le]

theorem le_two_mul_iff (a b : Nat) : magnitudeValue a + magnitudeValue b ≤ 2 * q ↔
    (magnitudeUnits a + magnitudeUnits b) * den ≤ 2 * num := by
  obtain ⟨scale, hscale, htwo, hsum⟩ := middle_scaled hden hq a b
  rw [← mul_le_mul_iff_left₀ hscale, htwo, hsum, Nat.cast_le]

/-- **A quotient is rounded to the nearest number.** -/
theorem isNearest_nearestMagnitude : IsNearest q (nearestMagnitude num den) := by
  obtain ⟨shift, significand, hr⟩ := exists_rounding num hden
  obtain ⟨habove, habove_even⟩ := hr.middle_above
  refine isNearest_of_neighbours ?_ (fun heq => ?_) (fun k hk => ?_) (fun k hk heq => ?_)
  · exact (two_mul_le_iff hden hq _ _).2 habove
  · exact habove_even ((le_two_mul_iff hden hq _ _).1 heq.ge)
  · exact (le_two_mul_iff hden hq _ _).2 (hr.middle_below hden hk).1
  · exact (hr.middle_below hden hk).2 ((two_mul_le_iff hden hq _ _).1 heq.ge)

end

/-! ## Decimals -/

theorem nearestMagnitude_of_small {num den : Nat} (h : 2 * num < den) : nearestMagnitude num den = 0 := by
  have hdiv : num / den = 0 := Nat.div_eq_of_lt (by omega)
  have hmod : num % den = num := Nat.mod_eq_of_lt (by omega)
  simp [nearestMagnitude, roundHalfEven, hdiv, hmod, h]

/-- A quotient is rounded to no number that is below one it has reached. -/
theorem le_nearestMagnitude {num den k : Nat} (hden : 0 < den) (h : magnitudeUnits k * den ≤ num) :
    k ≤ nearestMagnitude num den := by
  obtain ⟨shift, significand, hr⟩ := exists_rounding num hden
  obtain ⟨hmiddle, -⟩ := hr.middle_above
  by_contra hlt
  have hnext := magnitudeUnits_strictMono.monotone (Nat.succ_le_of_lt (Nat.not_le.1 hlt))
  have hthis := magnitudeUnits_strictMono (Nat.not_le.1 hlt)
  have hsum := Nat.mul_lt_mul_of_pos_right (Nat.add_lt_add_of_lt_of_le hthis hnext) hden
  rw [Nat.add_mul (magnitudeUnits k)] at hsum
  exact absurd (Nat.lt_of_le_of_lt hmiddle hsum) (by omega)

theorem ofRatio_of_small (negative : Bool) {num den : Nat} (h : 2 * (num * unitsPerOne) < den) :
    ofRatio negative num den = signedZero negative := by
  rw [ofRatio, ofUnits, nearestMagnitude_of_small h]
  exact dif_pos (by decide)

theorem ofRatio_of_large (negative : Bool) {num den : Nat} (hden : 0 < den) (h : 10 ^ 309 * den ≤ num) :
    ofRatio negative num den = .infinity negative := by
  have hunits : magnitudeUnits magnitudeCount ≤ 10 ^ 309 * unitsPerOne := by
    rw [show magnitudeCount = (2046 + 1) * 2 ^ 52 + 0 from rfl, magnitudeUnits_binade _ (by decide)]
    decide +kernel
  have hscaled : magnitudeUnits magnitudeCount * den ≤ num * unitsPerOne :=
    calc magnitudeUnits magnitudeCount * den
      _ ≤ 10 ^ 309 * unitsPerOne * den := Nat.mul_le_mul_right den hunits
      _ = 10 ^ 309 * den * unitsPerOne := Nat.mul_right_comm _ _ _
      _ ≤ num * unitsPerOne := Nat.mul_le_mul_right _ h
  rw [ofRatio, ofUnits]
  exact dif_neg (Nat.not_lt.2 (le_nearestMagnitude hden hscaled))

/-- The tests that save the power of ten answer what rounding would. -/
theorem ofDecimal_eq_rounded (negative : Bool) (significand : Nat) (exponent : Int) :
    ofDecimal negative significand exponent =
      ofRatio negative (significand * 10 ^ exponent.toNat) (10 ^ (-exponent).toNat) := by
  have hden := ten_pow_pos (-exponent).toNat
  unfold ofDecimal
  split
  next hzero =>
    subst hzero
    exact (ofRatio_of_small negative (by simp)).symm
  next hne =>
    split
    next hhigh =>
      refine (ofRatio_of_large negative hden ?_).symm
      have hpow := ten_pow_le (show 309 ≤ exponent.toNat by omega)
      generalize 10 ^ 309 = bound at *
      rw [show (-exponent).toNat = 0 by omega, Nat.pow_zero, Nat.mul_one]
      exact Nat.le_trans hpow (Nat.le_mul_of_pos_left _ (Nat.pos_of_ne_zero hne))
    next =>
      split
      next hlow =>
        refine (ofRatio_of_small negative ?_).symm
        rw [show exponent.toNat = 0 by omega, Nat.pow_zero, Nat.mul_one]
        generalize hplaces : (-exponent).toNat = places
        have hhalf : 2 ^ 1075 = 2 * unitsPerOne := by decide +kernel
        calc 2 * (significand * unitsPerOne)
          _ = significand * (2 * unitsPerOne) := Nat.mul_left_comm _ _ _
          _ < 2 ^ (significand.log2 + 1) * (2 * unitsPerOne) :=
            Nat.mul_lt_mul_of_pos_right Nat.lt_log2_self (Nat.mul_pos Nat.two_pos unitsPerOne_pos)
          _ = 2 ^ (significand.log2 + 1 + 1075) := by rw [← hhalf, ← Nat.pow_add]
          _ ≤ 2 ^ (3 * places) := Nat.pow_le_pow_right (by decide) (by omega)
          _ = 8 ^ places := Nat.pow_mul _ _ _
          _ ≤ 10 ^ places := Nat.pow_le_pow_left (by decide) places
      next => rfl

/-- The number that a significand with a power of ten stands for. -/
def decimalValue (significand : Nat) (exponent : Int) : ℚ := significand * 10 ^ exponent

theorem decimalValue_scaled (significand : Nat) (exponent : Int) :
    decimalValue significand exponent * ((10 ^ (-exponent).toNat : Nat) * unitsPerOne) =
      (significand * 10 ^ exponent.toNat * unitsPerOne : Nat) := by
  have hpower : (10 : ℚ) ^ exponent * 10 ^ (-exponent).toNat = 10 ^ exponent.toNat := by
    rw [← zpow_natCast, ← zpow_natCast, ← zpow_add₀ (by norm_num)]
    congr 1
    omega
  unfold decimalValue
  generalize unitsPerOne = one
  push_cast
  rw [← hpower]
  ring

/-- **A decimal is the finite number that is nearest to it**, if that is a finite number at all. -/
theorem ofDecimal_eq_finite_iff (negative : Bool) (significand : Nat) (exponent : Int) (x : FiniteDouble) :
    ofDecimal negative significand exponent = .finite x ↔
      x.negative = negative ∧ IsNearest (decimalValue significand exponent) x.magnitude := by
  have hnearest := isNearest_nearestMagnitude (ten_pow_pos _) (decimalValue_scaled significand exponent)
  rw [ofDecimal_eq_rounded, ofRatio, ofUnits]
  generalize nearestMagnitude _ _ = m at *
  unfold ofMagnitude
  constructor
  · intro h
    split at h
    next =>
      obtain rfl := Double.finite.inj h
      exact ⟨rfl, hnearest⟩
    next => cases h
  · rintro ⟨rfl, hx⟩
    obtain rfl := hnearest.unique hx
    exact dif_pos x.magnitude.isLt

end Double

end RowQuery
