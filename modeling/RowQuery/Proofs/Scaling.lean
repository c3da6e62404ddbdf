import RowQuery.Json.Numeral
import RowQuery.Proofs.NearestDouble
/-!
# Scaling by powers of ten

Where a JSON numeral has a value: scaling downwards always ends at a number, and scaling
upwards does for what is read of the digits of a number below the last two of the format
(`scale?_of_decimal`). The digits can be cut off and each step rounds, so the bound is on the
exact product, with room for the roundings.
-/

namespace RowQuery

/-- The binade of the last number; its spacing is `2 ^ lastBinade` units. -/
def Double.lastBinade : Nat := 2045

theorem FiniteDouble.absUnits_le (x : FiniteDouble) : x.absUnits ≤ (2 ^ 53 - 1) * 2 ^ Double.lastBinade :=
  Double.magnitudeUnits_le x.magnitude.isLt

namespace Double

theorem magnitudeCount_eq : magnitudeCount = (lastBinade + 2) * 2 ^ 52 := rfl

/-! ## Operations without overflow -/

theorem ofUnits_finite (negative : Bool) {num den : Nat} (hden : 0 < den)
    (h : 2 * num < (2 ^ 54 - 1) * (den * 2 ^ lastBinade)) :
    ∃ x, ofUnits negative num den = .finite x ∧ x.absUnits = magnitudeUnits (nearestMagnitude num den) :=
  ⟨⟨negative, _, nearestMagnitude_lt hden lastBinade h⟩, dif_pos _, rfl⟩

theorem mul_finite {x y : FiniteDouble}
    (h : 2 * (x.absUnits * y.absUnits) < (2 ^ 54 - 1) * (unitsPerOne * 2 ^ lastBinade)) :
    ∃ z, Double.finite x * .finite y = .finite z := by
  obtain ⟨z, hz, -⟩ := ofUnits_finite (x.negative != y.negative) unitsPerOne_pos h
  refine ⟨z, ?_⟩
  change mul (.finite x) (.finite y) = .finite z
  rw [mul, hz]

/-- A quotient by one or more does not overflow. -/
theorem div_finite (x : FiniteDouble) {y : FiniteDouble} (h : unitsPerOne ≤ y.absUnits) :
    ∃ z, Double.finite x / .finite y = .finite z := by
  have hy : 0 < y.absUnits := Nat.lt_of_lt_of_le unitsPerOne_pos h
  have hle : x.absUnits * unitsPerOne ≤ (2 ^ 53 - 1) * (y.absUnits * 2 ^ lastBinade) := by
    rw [Nat.mul_comm y.absUnits, ← Nat.mul_assoc]
    exact Nat.mul_le_mul x.absUnits_le h
  have hpos : 0 < y.absUnits * 2 ^ lastBinade := Nat.mul_pos hy (Nat.two_pow_pos _)
  have hlt : 2 * (x.absUnits * unitsPerOne) < (2 ^ 54 - 1) * (y.absUnits * 2 ^ lastBinade) := by
    generalize y.absUnits * 2 ^ lastBinade = spacing, x.absUnits * unitsPerOne = product at *
    omega
  obtain ⟨z, hz, -⟩ := ofUnits_finite (x.negative != y.negative) hy hlt
  exact ⟨z, (if_neg (Nat.ne_of_gt hy)).trans hz⟩

/-- Multiplying by one gives the number itself. -/
theorem mul_one (x : FiniteDouble) : Double.finite x * .finite .one = .finite x := by
  have hone : FiniteDouble.one.absUnits = unitsPerOne := by decide +kernel
  change mul (.finite x) (.finite .one) = .finite x
  rw [mul, hone, show FiniteDouble.one.negative = false from rfl, Bool.bne_false]
  exact ofUnits_absUnits x unitsPerOne_pos

/-! ## Naturals -/

/-- A natural is read as a double that differs from it by at most one part in `2 ^ 53`. -/
theorem ofNat_finite {n : Nat} (h : 2 * (n * unitsPerOne) < (2 ^ 54 - 1) * 2 ^ lastBinade) :
    ∃ x, ofNat n = .finite x ∧ 2 ^ 53 * x.absUnits ≤ (2 ^ 53 + 1) * (n * unitsPerOne) ∧
      (2 ^ 53 - 1) * (n * unitsPerOne) ≤ 2 ^ 53 * x.absUnits := by
  have hone : 2 ^ 52 ≤ unitsPerOne := by decide +kernel
  have hsize : n * unitsPerOne = 0 ∨ 2 ^ 52 * 1 ≤ n * unitsPerOne := by
    rcases Nat.eq_zero_or_pos n with rfl | hn
    · exact .inl (Nat.zero_mul _)
    · exact .inr (Nat.le_trans hone (Nat.le_mul_of_pos_left _ hn))
  obtain ⟨x, hx, hunits⟩ := ofUnits_finite false Nat.one_pos (by rwa [Nat.one_mul])
  have hbounds := units_nearestMagnitude Nat.one_pos hsize
  rw [← hunits, Nat.mul_one] at hbounds
  exact ⟨x, hx, hbounds⟩

theorem ofNat_significand_finite {n : Nat} (h : n < 2 ^ 64) :
    ∃ x, ofNat n = .finite x ∧ 2 ^ 53 * x.absUnits ≤ (2 ^ 53 + 1) * (n * unitsPerOne) := by
  have hlast : 2 * (2 ^ 64 * unitsPerOne) < (2 ^ 54 - 1) * 2 ^ lastBinade := by decide +kernel
  have hle : n * unitsPerOne ≤ 2 ^ 64 * unitsPerOne := Nat.mul_le_mul_right _ (Nat.le_of_lt h)
  obtain ⟨x, hx, hunits, -⟩ := ofNat_finite (Nat.lt_of_le_of_lt (Nat.mul_le_mul_left 2 hle) hlast)
  exact ⟨x, hx, hunits⟩

end Double

namespace Json.Numeral

open Double

/-! ## Powers of ten -/

theorem powerOfTen_finite {n : Nat} (h : n ≤ 308) :
    ∃ x, powerOfTen n = .finite x ∧ 2 ^ 53 * x.absUnits ≤ (2 ^ 53 + 1) * (10 ^ n * unitsPerOne) ∧
      (2 ^ 53 - 1) * (10 ^ n * unitsPerOne) ≤ 2 ^ 53 * x.absUnits := by
  have hlast : 2 * (10 ^ 308 * unitsPerOne) < (2 ^ 54 - 1) * 2 ^ lastBinade := by decide +kernel
  have hle : 10 ^ n * unitsPerOne ≤ 10 ^ 308 * unitsPerOne :=
    Nat.mul_le_mul_right _ (ten_pow_le h)
  exact ofNat_finite (Nat.lt_of_le_of_lt (Nat.mul_le_mul_left 2 hle) hlast)

/-- A power of ten that divides is one or more, also as it is rounded. -/
theorem powerOfTen_divisor {n : Nat} (h : n ≤ 308) (hpos : 0 < n) :
    ∃ x, powerOfTen n = .finite x ∧ unitsPerOne ≤ x.absUnits := by
  obtain ⟨x, hx, -, hlow⟩ := powerOfTen_finite h
  refine ⟨x, hx, ?_⟩
  have hten : 10 * unitsPerOne ≤ 10 ^ n * unitsPerOne :=
    Nat.mul_le_mul_right _ (Nat.le_self_pow (Nat.ne_of_gt hpos) 10)
  generalize unitsPerOne = one, 10 ^ n * unitsPerOne = power at *
  omega

/-! ## Scaling downwards -/

/-- Scaling downwards always ends at a number. -/
theorem scale?_of_nonpos (x : FiniteDouble) {exponent : Int} (h : exponent ≤ 0) :
    ∃ y, scale? (.finite x) exponent = some y := by
  generalize hn : (-exponent).toNat = n
  induction n using Nat.strong_induction_on generalizing x exponent with
  | _ n ih =>
    unfold scale?
    rw [if_neg (by omega)]
    by_cases hzero : 0 ≤ exponent
    · rw [if_pos hzero, show exponent.toNat = 0 by omega, show powerOfTen 0 = .finite .one by decide +kernel,
        mul_one]
      exact ⟨x, rfl⟩
    rw [if_neg hzero]
    by_cases hlast : -308 ≤ exponent
    · obtain ⟨y, hy, hone⟩ := @powerOfTen_divisor (-exponent).toNat (by omega) (by omega)
      obtain ⟨z, hz⟩ := div_finite x hone
      rw [if_pos hlast, hy, hz]
      exact ⟨z, rfl⟩
    rw [if_neg hlast]
    split
    · exact ⟨x, rfl⟩
    -- One step divides by the largest power, and what is left of the exponent is closer to zero.
    · obtain ⟨y, hy, hone⟩ := @powerOfTen_divisor 308 (by decide) (by decide)
      obtain ⟨z, hz⟩ := div_finite x hone
      rw [hy, hz]
      exact ih (-(exponent + 308)).toNat (by omega) z (by omega) rfl

/-! ## Scaling upwards -/

theorem scale?_of_le (x : Double) {exponent : Nat} (h : exponent ≤ 308) :
    scale? x exponent = (x * powerOfTen exponent).finite? := by
  unfold scale?
  rw [if_neg (by omega), if_pos (by omega), Int.toNat_natCast]

theorem exponent_le_of_bound {n : Nat} (h : 2 * (10 ^ n * unitsPerOne) ≤ (2 ^ 54 - 5) * 2 ^ lastBinade) :
    n ≤ 308 := by
  have hlast : (2 ^ 54 - 5) * 2 ^ lastBinade < 2 * (10 ^ 309 * unitsPerOne) := by decide +kernel
  by_contra hgt
  have hle : 10 ^ 309 * unitsPerOne ≤ 10 ^ n * unitsPerOne :=
    Nat.mul_le_mul_right _ (ten_pow_le (Nat.not_le.1 hgt))
  exact absurd (Nat.le_trans (Nat.mul_le_mul_left 2 hle) h) (Nat.not_le.2 hlast)

/-- The product of two rounded factors, where the exact product keeps a distance from overflow
that is larger than what both roundings add. -/
theorem product_lt {a b significand power one last : Nat} (hone : 0 < one) (hlast : 0 < last)
    (ha : 2 ^ 53 * a ≤ (2 ^ 53 + 1) * (significand * one)) (hb : 2 ^ 53 * b ≤ (2 ^ 53 + 1) * (power * one))
    (h : 2 * (significand * power * one) ≤ (2 ^ 54 - 5) * last) : 2 * (a * b) < (2 ^ 54 - 1) * (one * last) := by
  have hfactors : 2 ^ 53 * a * (2 ^ 53 * b) ≤ (2 ^ 53 + 1) * (significand * one) * ((2 ^ 53 + 1) * (power * one)) :=
    Nat.mul_le_mul ha hb
  have hleft : 2 ^ 53 * a * (2 ^ 53 * b) = 2 ^ 106 * (a * b) := by ring
  have hright : (2 ^ 53 + 1) * (significand * one) * ((2 ^ 53 + 1) * (power * one)) =
      (2 ^ 53 + 1) * (2 ^ 53 + 1) * (significand * power * one * one) := by ring
  have hexact : 2 * (significand * power * one * one) ≤ (2 ^ 54 - 5) * (one * last) :=
    calc 2 * (significand * power * one * one)
      _ = 2 * (significand * power * one) * one := by ring
      _ ≤ (2 ^ 54 - 5) * last * one := Nat.mul_le_mul_right one h
      _ = (2 ^ 54 - 5) * (one * last) := by ring
  have hpos : 0 < one * last := Nat.mul_pos hone hlast
  rw [hleft, hright] at hfactors
  generalize a * b = product, significand * power * one * one = exact, one * last = limit at *
  -- `(2 ^ 53 + 1) ^ 2 * (2 ^ 54 - 5)` is still less than `2 ^ 106 * (2 ^ 54 - 1)`.
  omega

/-- Scaling upwards ends at a number where the exact product keeps its distance from overflow. -/
theorem scale?_of_bound {significand exponent : Nat} (hpos : 0 < significand) (hsize : significand < 2 ^ 64)
    (h : 2 * (significand * 10 ^ exponent * unitsPerOne) ≤ (2 ^ 54 - 5) * 2 ^ lastBinade) :
    ∃ y, scale? (.ofNat significand) exponent = some y := by
  have hpower : 10 ^ exponent * unitsPerOne ≤ significand * 10 ^ exponent * unitsPerOne :=
    Nat.mul_le_mul_right _ (Nat.le_mul_of_pos_left _ hpos)
  have hexponent : exponent ≤ 308 := exponent_le_of_bound (Nat.le_trans (Nat.mul_le_mul_left 2 hpower) h)
  obtain ⟨x, hx, hxunits⟩ := ofNat_significand_finite hsize
  obtain ⟨y, hy, hyunits, -⟩ := powerOfTen_finite hexponent
  obtain ⟨z, hz⟩ := mul_finite (product_lt unitsPerOne_pos (Nat.two_pow_pos _) hxunits hyunits h)
  rw [scale?_of_le _ hexponent, hx, hy, hz]
  exact ⟨z, rfl⟩

/-! ## The digits of a number -/

theorem signedZero_ne {x : FiniteDouble} (h : x.absUnits ≠ 0) : signedZero x.negative ≠ .finite x := by
  intro heq
  rw [← Double.finite.inj heq] at h
  exact h (show magnitudeUnits FiniteDouble.zero.magnitude.val = 0 by decide)

theorem magnitude_of_ofUnits {negative : Bool} {num den : Nat} {x : FiniteDouble}
    (h : ofUnits negative num den = .finite x) : nearestMagnitude num den = x.magnitude.val := by
  unfold ofUnits ofMagnitude at h
  split at h
  · rw [← Double.finite.inj h]
  · cases h

/-- What is read of the digits of a number below the last two of the format keeps its distance
from overflow. Digits that are cut off are made up for in the exponent. -/
theorem bound_of_decimal {x : FiniteDouble} {d : Decimal} (h : d.toDouble x.negative = .finite x)
    (hlast : x.magnitude.val + 3 ≤ magnitudeCount) {read unread exponent : Nat}
    (hread : read * 10 ^ unread ≤ d.significand) (hexponent : (exponent : Int) = unread + d.exponent) :
    2 * (read * 10 ^ exponent * unitsPerOne) ≤ (2 ^ 54 - 5) * 2 ^ lastBinade := by
  rw [Decimal.toDouble, ofDecimal_eq_rounded] at h
  rw [← magnitude_of_ofUnits h, magnitudeCount_eq] at hlast
  have hbound := two_mul_le_of_nearestMagnitude (ten_pow_pos _) hlast
  have hdigits : read * 10 ^ exponent * 10 ^ (-d.exponent).toNat ≤ d.significand * 10 ^ d.exponent.toNat := by
    rw [Nat.mul_assoc, ← Nat.pow_add, show exponent + (-d.exponent).toNat = unread + d.exponent.toNat by omega,
      Nat.pow_add, ← Nat.mul_assoc]
    exact Nat.mul_le_mul_right _ hread
  refine Nat.le_of_mul_le_mul_left ?_ (ten_pow_pos (-d.exponent).toNat)
  calc 10 ^ (-d.exponent).toNat * (2 * (read * 10 ^ exponent * unitsPerOne))
    _ = 2 * (read * 10 ^ exponent * 10 ^ (-d.exponent).toNat * unitsPerOne) := by
      generalize unitsPerOne = one
      ring
    _ ≤ 2 * (d.significand * 10 ^ d.exponent.toNat * unitsPerOne) :=
      Nat.mul_le_mul_left 2 (Nat.mul_le_mul_right _ hdigits)
    _ ≤ (2 ^ 54 - 5) * (10 ^ (-d.exponent).toNat * 2 ^ lastBinade) := hbound
    _ = 10 ^ (-d.exponent).toNat * ((2 ^ 54 - 5) * 2 ^ lastBinade) := Nat.mul_left_comm _ _ _

theorem scale?_of_decimal {x : FiniteDouble} {d : Decimal} (h : d.toDouble x.negative = .finite x)
    (hlast : x.magnitude.val + 3 ≤ magnitudeCount) {read unread : Nat}
    (hpos : 0 < read) (hsize : read < 2 ^ 64) (hread : read * 10 ^ unread ≤ d.significand) :
    ∃ y, scale? (.ofNat read) (unread + d.exponent) = some y := by
  rcases Int.le_total (unread + d.exponent) 0 with hdown | hup
  · obtain ⟨y, hy, -⟩ := ofNat_significand_finite hsize
    rw [hy]
    exact scale?_of_nonpos y hdown
  · obtain ⟨exponent, hexponent⟩ := Int.eq_ofNat_of_zero_le hup
    rw [hexponent]
    exact scale?_of_bound hpos hsize (bound_of_decimal h hlast hread hexponent.symm)

/-- The power of ten of the first digit of a number below the last two of the format. -/
theorem exponent_le_of_decimal {x : FiniteDouble} {d : Decimal} (h : d.toDouble x.negative = .finite x)
    (hlast : x.magnitude.val + 3 ≤ magnitudeCount) {places : Nat}
    (hplaces : 10 ^ places ≤ d.significand) : places + d.exponent ≤ 308 := by
  by_contra hgt
  obtain ⟨exponent, hexponent⟩ := Int.eq_ofNat_of_zero_le (show 0 ≤ places + d.exponent by omega)
  have hbound := bound_of_decimal h hlast (by rwa [Nat.one_mul]) hexponent.symm
  rw [Nat.one_mul] at hbound
  have := exponent_le_of_bound hbound
  omega

/-! ## Significand and exponent -/

/-- An exponent beyond the limit below gives zero, so only what is scaled can fail. -/
theorem double?_of_scale? (negative : Bool) {significand : Nat} {shift exponent : Int}
    (hexponent : exponent ≤ exponentLimit)
    (h : ∃ y, scale? (.ofNat significand) (shift + exponent) = some y) :
    ∃ y, double? negative significand shift exponent = some y := by
  obtain ⟨y, hy⟩ := h
  unfold double?
  by_cases hlimit : exponent.natAbs ≤ exponentLimit
  · rw [if_pos hlimit, hy]
    exact ⟨_, rfl⟩
  · rw [if_neg hlimit, if_neg (by omega)]
    exact ⟨_, rfl⟩

theorem double?_of_nonpos (negative : Bool) {significand : Nat} {shift exponent : Int}
    (hsize : significand < 2 ^ 64) (hexponent : exponent ≤ exponentLimit) (h : shift + exponent ≤ 0) :
    ∃ y, double? negative significand shift exponent = some y := by
  refine double?_of_scale? negative hexponent ?_
  obtain ⟨x, hx, -⟩ := ofNat_significand_finite hsize
  rw [hx]
  exact scale?_of_nonpos x h

end Json.Numeral

end RowQuery
