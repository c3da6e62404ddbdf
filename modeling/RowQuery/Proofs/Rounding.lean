import RowQuery.Double.Rounding
import Mathlib
/-!
# Numbers of the format need no rounding

A quotient that is a number of the format rounds to that number. Everything here is arithmetic on
counts of `2 ^ (-1074)`; no real numbers are needed.
-/

namespace RowQuery

namespace Double

/-! ## Rounding what needs none -/

theorem roundHalfEven_mul (k : Nat) {d : Nat} (hd : 0 < d) : roundHalfEven (k * d) d = k := by
  unfold roundHalfEven
  rw [Nat.mul_mod_left, Nat.mul_div_cancel k hd]
  simp [hd]

theorem unitsPerOne_pos : 0 < unitsPerOne := by decide +kernel

theorem magnitudeUnits_of_lt {m : Nat} (h : m < 2 ^ 52) : magnitudeUnits m = m := by
  unfold magnitudeUnits
  rw [Nat.div_eq_of_lt h, Nat.mod_eq_of_lt h]
  simp

theorem magnitudeUnits_binade (b : Nat) {f : Nat} (hf : f < 2 ^ 52) :
    magnitudeUnits ((b + 1) * 2 ^ 52 + f) = (2 ^ 52 + f) * 2 ^ b := by
  have hdiv : ((b + 1) * 2 ^ 52 + f) / 2 ^ 52 = b + 1 := by omega
  have hmod : ((b + 1) * 2 ^ 52 + f) % 2 ^ 52 = f := by omega
  unfold magnitudeUnits
  rw [hdiv, hmod]
  simp

/-- The significand of a later binade has its highest bit at place 52. -/
theorem log2_binade (b : Nat) {f : Nat} (hf : f < 2 ^ 52) : ((2 ^ 52 + f) * 2 ^ b).log2 = b + 52 := by
  have hpos : 0 < 2 ^ b := Nat.two_pow_pos b
  rw [Nat.log2_eq_iff (Nat.ne_of_gt (Nat.mul_pos (by omega) hpos))]
  constructor
  · rw [Nat.pow_add, Nat.mul_comm]
    exact Nat.mul_le_mul_right _ (by omega)
  · rw [show b + 52 + 1 = 53 + b by omega, Nat.pow_add]
    exact Nat.mul_lt_mul_of_pos_right (by omega) hpos

/-- The number of a magnitude is nearest to itself, over any denominator. -/
theorem nearestMagnitude_units (m : Nat) {d : Nat} (hd : 0 < d) :
    nearestMagnitude (magnitudeUnits m * d) d = m := by
  unfold nearestMagnitude
  rw [Nat.mul_div_cancel _ hd]
  rcases Nat.lt_or_ge m (2 ^ 52) with h | h
  -- The first binade is spaced by one unit and needs no shift.
  · have hlog : m.log2 ≤ 52 := by
      rcases Nat.eq_zero_or_pos m with rfl | hm
      · simp
      · exact Nat.le_of_lt ((Nat.log2_lt (Nat.ne_of_gt hm)).2 h)
    rw [magnitudeUnits_of_lt h]
    simp [Nat.sub_eq_zero_of_le hlog, roundHalfEven_mul m hd]
  -- In a later one the shift takes away just the power that the significand stands for.
  · obtain ⟨b, f, hf, rfl⟩ : ∃ b f, f < 2 ^ 52 ∧ m = (b + 1) * 2 ^ 52 + f :=
      ⟨m / 2 ^ 52 - 1, m % 2 ^ 52, by omega, by omega⟩
    have hden : 0 < d * 2 ^ b := Nat.mul_pos hd (Nat.two_pow_pos b)
    rw [magnitudeUnits_binade b hf, log2_binade b hf, Nat.add_sub_cancel,
      Nat.mul_assoc, Nat.mul_comm (2 ^ b) d]
    simp only [roundHalfEven_mul _ hden]
    omega

/-- A number of the format is its own rounding. -/
theorem ofUnits_absUnits (x : FiniteDouble) {d : Nat} (hd : 0 < d) :
    ofUnits x.negative (x.absUnits * d) d = .finite x := by
  unfold ofUnits FiniteDouble.absUnits
  rw [nearestMagnitude_units _ hd]
  simp [ofMagnitude]

/-- A quotient that is a number of the format rounds to it. -/
theorem ofRatio_of_units (x : FiniteDouble) {num den : Nat} (hden : 0 < den)
    (h : num * unitsPerOne = x.absUnits * den) : ofRatio x.negative num den = .finite x := by
  unfold ofRatio
  rw [h]
  exact ofUnits_absUnits x hden

theorem magnitudeUnits_eq_zero {m : Nat} (h : magnitudeUnits m = 0) : m = 0 := by
  have hm := nearestMagnitude_units m Nat.one_pos
  rw [h] at hm
  rw [← hm]
  decide

theorem ten_pow_pos (n : Nat) : 0 < 10 ^ n := Nat.pow_pos (by decide)

theorem ten_pow_le {m n : Nat} (h : m ≤ n) : 10 ^ m ≤ 10 ^ n := Nat.pow_le_pow_right (by decide) h

end Double

end RowQuery
