import RowQuery.Double.Arithmetic
import RowQuery.Proofs.Rounding
/-!
# How far rounding goes

A rounded quotient is at most half a spacing off (`exists_rounding`). From that follows when
rounding leaves a binade (`nearestMagnitude_lt`), how large a quotient can be that did not
(`two_mul_le_of_nearestMagnitude`), and by what factor a rounded quotient can differ from the
exact one (`units_nearestMagnitude`).
-/

namespace RowQuery

namespace Double

/-! ## Half a spacing -/

theorem roundHalfEven_bounds (num : Nat) {den : Nat} (hden : 0 < den) :
    2 * (roundHalfEven num den * den) ≤ 2 * num + den ∧ 2 * num ≤ 2 * (roundHalfEven num den * den) + den := by
  have hparts : num / den * den + num % den = num := Nat.div_add_mod' num den
  have hrest : num % den < den := Nat.mod_lt num hden
  have hnext : (num / den + 1) * den = num / den * den + den := Nat.succ_mul _ _
  unfold roundHalfEven
  dsimp only
  split
  · omega
  · split
    · omega
    · split <;> omega

/-- A half goes to the even neighbour. -/
theorem roundHalfEven_even (num : Nat) {den : Nat} (hden : 0 < den)
    (h : 2 * (roundHalfEven num den * den) = 2 * num + den ∨ 2 * num = 2 * (roundHalfEven num den * den) + den) :
    roundHalfEven num den % 2 = 0 := by
  have hparts : num / den * den + num % den = num := Nat.div_add_mod' num den
  have hrest : num % den < den := Nat.mod_lt num hden
  have hnext : (num / den + 1) * den = num / den * den + den := Nat.succ_mul _ _
  unfold roundHalfEven at h ⊢
  dsimp only at h ⊢
  split_ifs at h ⊢ <;> omega

/-- A rounded quotient is a significand of 53 bits with a shift, and at most half a spacing off.
The significand may be the power of two above, which carries into the next binade. -/
structure IsRounding (num den shift significand : Nat) : Prop where
  magnitude : nearestMagnitude num den = shift * 2 ^ 52 + significand
  le : significand ≤ 2 ^ 53
  normal : shift = 0 ∨ 2 ^ 52 ≤ significand
  spacing : shift = 0 ∨ 2 ^ 52 * (den * 2 ^ shift) ≤ num
  above : 2 * (significand * (den * 2 ^ shift)) ≤ 2 * num + den * 2 ^ shift
  below : 2 * num ≤ 2 * (significand * (den * 2 ^ shift)) + den * 2 ^ shift
  even : 2 * (significand * (den * 2 ^ shift)) = 2 * num + den * 2 ^ shift ∨
    2 * num = 2 * (significand * (den * 2 ^ shift)) + den * 2 ^ shift → significand % 2 = 0

theorem le_of_shift {num den : Nat} (hden : 0 < den) (h : 52 < (num / den).log2) :
    2 ^ 52 * (den * 2 ^ ((num / den).log2 - 52)) ≤ num := by
  have hne : num / den ≠ 0 := by
    intro hzero
    rw [hzero] at h
    exact absurd h (by decide)
  have hlow : 2 ^ (52 + ((num / den).log2 - 52)) ≤ num / den := by
    rw [show 52 + ((num / den).log2 - 52) = (num / den).log2 by omega]
    exact Nat.log2_self_le hne
  have hmul := (Nat.le_div_iff_mul_le hden).1 hlow
  rwa [Nat.pow_add, Nat.mul_assoc, Nat.mul_comm (2 ^ _) den] at hmul

theorem lt_of_shift (num : Nat) {den : Nat} (hden : 0 < den) :
    num < 2 ^ 53 * (den * 2 ^ ((num / den).log2 - 52)) := by
  have hquotient : num / den < 2 ^ ((num / den).log2 + 1) := Nat.lt_log2_self
  have hhigh : 2 ^ ((num / den).log2 + 1) ≤ 2 ^ (53 + ((num / den).log2 - 52)) :=
    Nat.pow_le_pow_right (by decide) (by omega)
  have hmul := (Nat.div_lt_iff_lt_mul hden).1 (Nat.lt_of_lt_of_le hquotient hhigh)
  rwa [Nat.pow_add, Nat.mul_assoc, Nat.mul_comm (2 ^ _) den] at hmul

theorem exists_rounding (num : Nat) {den : Nat} (hden : 0 < den) :
    ∃ shift significand, IsRounding num den shift significand := by
  have hspacing : (num / den).log2 - 52 = 0 ∨ 2 ^ 52 * (den * 2 ^ ((num / den).log2 - 52)) ≤ num :=
    (Nat.lt_or_ge 52 (num / den).log2).symm.imp Nat.sub_eq_zero_of_le (le_of_shift hden)
  have hnum := lt_of_shift num hden
  have hmagnitude : nearestMagnitude num den = ((num / den).log2 - 52) * 2 ^ 52 +
      roundHalfEven num (den * 2 ^ ((num / den).log2 - 52)) := rfl
  generalize (num / den).log2 - 52 = shift at *
  have hpos : 0 < den * 2 ^ shift := Nat.mul_pos hden (Nat.two_pow_pos shift)
  obtain ⟨habove, hbelow⟩ := roundHalfEven_bounds num hpos
  have heven := roundHalfEven_even num hpos
  generalize roundHalfEven num (den * 2 ^ shift) = significand at *
  refine ⟨shift, significand, hmagnitude, ?_, ?_, hspacing, habove, hbelow, heven⟩
  · by_contra hgt
    have hle : (2 ^ 53 + 1) * (den * 2 ^ shift) ≤ significand * (den * 2 ^ shift) :=
      Nat.mul_le_mul_right _ (by omega)
    omega
  · refine hspacing.imp_right fun hle => ?_
    by_contra hlt
    have hle' : significand * (den * 2 ^ shift) ≤ (2 ^ 52 - 1) * (den * 2 ^ shift) :=
      Nat.mul_le_mul_right _ (by omega)
    omega

/-- The units of a significand with a shift. -/
theorem magnitudeUnits_shift {shift significand : Nat} (hle : significand ≤ 2 ^ 53)
    (hnormal : shift = 0 ∨ 2 ^ 52 ≤ significand) :
    magnitudeUnits (shift * 2 ^ 52 + significand) = significand * 2 ^ shift := by
  rcases Nat.lt_or_ge significand (2 ^ 52) with hlt | hge
  · obtain rfl := hnormal.resolve_right (by omega)
    rw [Nat.zero_mul, Nat.zero_add, magnitudeUnits_of_lt hlt]
    simp
  · rcases Nat.eq_or_lt_of_le hle with heq | hlt
    -- The power of two above is the first number of the next binade, whose spacing is twice as wide.
    · have hcarry : shift * 2 ^ 52 + significand = (shift + 1 + 1) * 2 ^ 52 + 0 := by omega
      have hpow : 2 ^ (shift + 1) = 2 ^ shift * 2 := Nat.pow_succ _ _
      rw [hcarry, magnitudeUnits_binade _ (by decide), hpow, heq]
      generalize 2 ^ shift = spacing
      omega
    · have hbinade : shift * 2 ^ 52 + significand = (shift + 1) * 2 ^ 52 + (significand - 2 ^ 52) := by omega
      rw [hbinade, magnitudeUnits_binade _ (by omega), Nat.add_sub_cancel' hge]

theorem IsRounding.units {num den shift significand : Nat} (h : IsRounding num den shift significand) :
    magnitudeUnits (nearestMagnitude num den) = significand * 2 ^ shift := by
  rw [h.magnitude, magnitudeUnits_shift h.le h.normal]

/-! ## Binades -/

theorem two_mul_pow_le {a b : Nat} (h : a < b) : 2 * 2 ^ a ≤ 2 ^ b := by
  have hpow : 2 ^ (a + 1) = 2 ^ a * 2 := Nat.pow_succ _ _
  rw [Nat.mul_comm, ← hpow]
  exact Nat.pow_le_pow_right (by decide) h

/-- A quotient closer to the last number of a binade than to the next power of two does not
leave the binade. -/
theorem nearestMagnitude_lt {num den : Nat} (hden : 0 < den) (binade : Nat)
    (h : 2 * num < (2 ^ 54 - 1) * (den * 2 ^ binade)) : nearestMagnitude num den < (binade + 2) * 2 ^ 52 := by
  obtain ⟨shift, significand, hr⟩ := exists_rounding num hden
  have hle := hr.le
  rw [hr.magnitude]
  rcases Nat.lt_trichotomy shift binade with hlt | rfl | hgt
  · omega
  · have habove := hr.above
    have hsignificand : significand < 2 ^ 53 := by
      by_contra hge
      have hmul : 2 ^ 53 * (den * 2 ^ shift) ≤ significand * (den * 2 ^ shift) :=
        Nat.mul_le_mul_right _ (Nat.not_lt.1 hge)
      generalize den * 2 ^ shift = spacing at *
      omega
    omega
  -- A larger spacing would make the quotient too large.
  · have hspacing := hr.spacing.resolve_left (by omega)
    have hpow : den * (2 * 2 ^ binade) ≤ den * 2 ^ shift := Nat.mul_le_mul_left den (two_mul_pow_le hgt)
    rw [Nat.mul_left_comm] at hpow
    generalize den * 2 ^ binade = spacing, den * 2 ^ shift = wide at *
    omega

/-- A quotient that is rounded to less than the last two numbers of a binade keeps a distance
from the next power of two. -/
theorem two_mul_le_of_nearestMagnitude {num den : Nat} (hden : 0 < den) {binade : Nat}
    (h : nearestMagnitude num den + 3 ≤ (binade + 2) * 2 ^ 52) : 2 * num ≤ (2 ^ 54 - 5) * (den * 2 ^ binade) := by
  obtain ⟨shift, significand, hr⟩ := exists_rounding num hden
  have hle := hr.le
  have hbelow := hr.below
  rw [hr.magnitude] at h
  rcases Nat.lt_trichotomy shift binade with hlt | rfl | hgt
  · have hpow : den * (2 * 2 ^ shift) ≤ den * 2 ^ binade := Nat.mul_le_mul_left den (two_mul_pow_le hlt)
    have hmul : significand * (den * 2 ^ shift) ≤ 2 ^ 53 * (den * 2 ^ shift) := Nat.mul_le_mul_right _ hle
    rw [Nat.mul_left_comm] at hpow
    generalize den * 2 ^ binade = spacing, den * 2 ^ shift = narrow at *
    omega
  · have hmul : significand * (den * 2 ^ shift) ≤ (2 ^ 53 - 3) * (den * 2 ^ shift) :=
      Nat.mul_le_mul_right _ (by omega)
    generalize den * 2 ^ shift = spacing at *
    omega
  · have hnormal := hr.normal.resolve_left (by omega)
    omega

/-- Every number below the next power of two is at most the last number of its binade. -/
theorem magnitudeUnits_le {m binade : Nat} (h : m < (binade + 2) * 2 ^ 52) :
    magnitudeUnits m ≤ (2 ^ 53 - 1) * 2 ^ binade := by
  rcases Nat.lt_or_ge m (2 ^ 52) with hlt | hge
  · rw [magnitudeUnits_of_lt hlt]
    have hpos : 0 < 2 ^ binade := Nat.two_pow_pos binade
    generalize 2 ^ binade = spacing at *
    omega
  · obtain ⟨b, f, hf, rfl⟩ : ∃ b f, f < 2 ^ 52 ∧ m = (b + 1) * 2 ^ 52 + f :=
      ⟨m / 2 ^ 52 - 1, m % 2 ^ 52, by omega, by omega⟩
    rw [magnitudeUnits_binade b hf]
    exact Nat.mul_le_mul (by omega) (Nat.pow_le_pow_right (by decide) (by omega))

/-! ## Relative error -/

/-- Rounding changes a quotient of zero or of `2 ^ 52` units and more by at most one part in `2 ^ 53`. -/
theorem units_nearestMagnitude {num den : Nat} (hden : 0 < den) (h : num = 0 ∨ 2 ^ 52 * den ≤ num) :
    2 ^ 53 * (magnitudeUnits (nearestMagnitude num den) * den) ≤ (2 ^ 53 + 1) * num ∧
      (2 ^ 53 - 1) * num ≤ 2 ^ 53 * (magnitudeUnits (nearestMagnitude num den) * den) := by
  rcases h with rfl | h
  · have hzero : nearestMagnitude 0 den = 0 := by
      simpa [magnitudeUnits_of_lt] using nearestMagnitude_units 0 hden
    simp [hzero, magnitudeUnits_of_lt]
  obtain ⟨shift, significand, hr⟩ := exists_rounding num hden
  have hspacing : 2 ^ 52 * (den * 2 ^ shift) ≤ num := by
    rcases hr.spacing with rfl | hspacing
    · simpa using h
    · exact hspacing
  have habove := hr.above
  have hbelow := hr.below
  rw [hr.units, Nat.mul_assoc, Nat.mul_comm (2 ^ shift)]
  generalize significand * (den * 2 ^ shift) = product at *
  generalize den * 2 ^ shift = spacing at *
  omega

end Double

end RowQuery
