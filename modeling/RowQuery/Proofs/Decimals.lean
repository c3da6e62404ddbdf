import RowQuery.Double.Plain
import RowQuery.Proofs.NearestDouble
/-!
# Decimals that read back

A decimal that is a number of the format is read as this number, since nothing is left to round.
So the full expansion of a double reads back as the double itself, and the shortest decimal with it.
-/

namespace RowQuery

namespace Double

/-- A decimal that is a number of the format is read as that number. -/
theorem ofDecimal_of_units (x : FiniteDouble) {significand : Nat} {exponent : Int}
    (h : significand * 10 ^ exponent.toNat * unitsPerOne = x.absUnits * 10 ^ (-exponent).toNat) :
    ofDecimal x.negative significand exponent = .finite x := by
  rw [ofDecimal_eq_rounded]
  exact ofRatio_of_units x (ten_pow_pos _) h

/-- A decimal is read the same with its power of ten in the significand. -/
theorem ofDecimal_mul_pow (negative : Bool) (significand : Nat) {exponent : Int} (h : 0 ≤ exponent) :
    ofDecimal negative (significand * 10 ^ exponent.toNat) 0 = ofDecimal negative significand exponent := by
  rw [ofDecimal_eq_rounded, ofDecimal_eq_rounded, show (-exponent).toNat = 0 by omega]
  simp

theorem ofDecimal_zero (negative : Bool) (exponent : Int) : ofDecimal negative 0 exponent = signedZero negative := by
  simp [ofDecimal]

end Double

namespace FiniteDouble

/-- A whole number of the format is read exactly from its digits. -/
theorem ofDecimal_whole {x : FiniteDouble} {n : Nat} (h : x.absUnits = n * Double.unitsPerOne) :
    Double.ofDecimal x.negative n 0 = .finite x := by
  apply Double.ofDecimal_of_units
  rw [h, Nat.mul_right_comm]
  rfl

theorem five_pow_mul_two_pow (n : Nat) : 5 ^ n * 2 ^ n = 10 ^ n := by
  rw [← Nat.mul_pow]

theorem toDouble_expansion (x : FiniteDouble) : x.expansion.toDouble x.negative = .finite x := by
  rw [Decimal.toDouble]
  apply Double.ofDecimal_of_units
  simp only [expansion]
  -- The powers stay folded: written out they have hundreds of digits.
  delta Double.unitsPerOne
  rw [show (-1074 : Int).toNat = 0 from rfl, show (-(-1074) : Int).toNat = 1074 from rfl,
    Nat.pow_zero, Nat.mul_one, Nat.mul_assoc, five_pow_mul_two_pow 1074]

theorem readsBack_iff {x : FiniteDouble} {d : Decimal} :
    x.readsBack d = true ↔ d.toDouble x.negative = .finite x := by
  simp [readsBack]

theorem readsBack_of_firstReadBack? {x : FiniteDouble} {first second d : Decimal}
    (h : x.firstReadBack? first second = some d) : x.readsBack d = true := by
  unfold firstReadBack? at h
  split at h
  next hfirst => rwa [← Option.some.inj h]
  next =>
    split at h
    next hsecond => rwa [← Option.some.inj h]
    next => cases h

theorem readsBack_of_decimalOfSize? {tie : Decimal.Tie} {x : FiniteDouble} {count : Nat} {d : Decimal}
    (h : x.decimalOfSize? tie count = some d) : x.readsBack d = true := by
  unfold decimalOfSize? at h
  extract_lets _ _ _ _ _ below above preferAbove at h
  split at h
  · exact readsBack_of_firstReadBack? h
  · exact readsBack_of_firstReadBack? h

/-- The shortest decimal reads back, whichever way ties go. -/
theorem toDouble_shortest (tie : Decimal.Tie) (x : FiniteDouble) :
    (x.shortest tie).toDouble x.negative = .finite x := by
  unfold shortest
  split
  next h => exact ofDecimal_whole (by rw [h, Nat.zero_mul])
  next h =>
    cases hfound : (List.range 17).findSome? fun n => x.decimalOfSize? tie (n + 1) with
    | none => exact x.toDouble_expansion
    | some d =>
      obtain ⟨n, -, hn⟩ := List.exists_of_findSome?_eq_some hfound
      exact readsBack_iff.1 (readsBack_of_decimalOfSize? hn)

end FiniteDouble

end RowQuery
