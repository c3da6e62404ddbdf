import RowQuery.Proofs.JsonRecords
import RowQuery.Proofs.PlainText
/-!
# The text of a value keeps its number

A value can be replaced by the text that it is compared by: the text is read as the number of the value,
or as none where the value has none (`Value.parseNumber_comparisonText`). Comparisons, keys and bound
parameters all go through this text. Numbers are written in two ways, short integral ones by the digits
of an integer and all others by a shortest decimal, and both are read back.
-/

namespace RowQuery

namespace FiniteDouble

variable {x : FiniteDouble} {n : Int}

theorem plain_of_integer? (h : x.integer? = some n) : x.plain = integerText n := by
  rw [plain, h]

theorem plain_of_integer?_none (h : x.integer? = none) : x.plain = withSign x.negative (x.shortest .up).plain := by
  rw [plain, h]

/-- The integer that a number is written as is the number itself. -/
theorem units_of_integer? (h : x.integer? = some n) : x.units = n * Double.unitsPerOne := by
  obtain ⟨hunits, hsign⟩ := of_integer? h
  rw [units, hunits]
  -- Written out, the unit has hundreds of digits.
  generalize Double.unitsPerOne = one
  by_cases hn : n = 0
  · subst hn
    simp
  · rw [← hsign hn, Int.natCast_mul]
    by_cases hneg : n < 0
    · rw [if_pos (decide_eq_true hneg), Int.ofNat_natAbs_of_nonpos (Int.le_of_lt hneg), Int.neg_mul, Int.neg_neg]
    · rw [if_neg (by simpa using hneg), Int.natAbs_of_nonneg (Int.not_lt.1 hneg)]

/-- A short integral number is written by the digits of an integer less than `9 * 10 ^ 15` away from zero. -/
theorem plain_of_isShortIntegral (h : x.IsShortIntegral) :
    ∃ n : Int, n.natAbs < integerLimit ∧ x.units = n * Double.unitsPerOne ∧ x.plain = integerText n := by
  cases hint : x.integer? with
  | none => exact absurd h (integer?_eq_none.1 hint)
  | some n => exact ⟨n, natAbs_lt_of_integer? hint, units_of_integer? hint, plain_of_integer? hint⟩

theorem parseNumber_plain (x : FiniteDouble) : parseNumber x.plain = some x.normalizeZero :=
  (Double.finite x).parseNumber_plain

end FiniteDouble

theorem Double.parseNumber_plain_of_not_finite {x : Double} (h : x.finite? = none) : parseNumber x.plain = none := by
  rw [x.parseNumber_plain, h]
  rfl

namespace Value

/-- The text has no number exactly where the value has none. -/
theorem numeric?_text_comparisonText_eq_none (v : Value) :
    (text v.comparisonText).numeric? = none ↔ v.numeric? = none := by
  rw [← Option.not_isSome_iff_eq_none, ← Option.not_isSome_iff_eq_none, ← v.isSome_parseNumber_comparisonText]
  rfl

end Value

/-- **The text that a value is compared by keeps its number.** The text is a number exactly where the value
has one, and it is the number of the value, up to the sign of zero. A finite number is read back from
its text, both where this is an integer and where it is a shortest decimal. The texts of null and of
numbers that are not finite are no numbers. -/
theorem comparison_text_keeps_number :
    (∀ v : Value,
        (Value.text v.comparisonText).numeric?.map FiniteDouble.normalizeZero =
            v.numeric?.map FiniteDouble.normalizeZero ∧
          ((Value.text v.comparisonText).numeric? = none ↔ v.numeric? = none)) ∧
      (∀ x : FiniteDouble, parseNumber x.plain = some x.normalizeZero ∧
        (x.IsShortIntegral → ∃ n : Int, n.natAbs < FiniteDouble.integerLimit ∧
          x.units = n * Double.unitsPerOne ∧ x.plain = integerText n) ∧
        (¬x.IsShortIntegral → x.plain = withSign x.negative (x.shortest .up).plain ∧
          (x.shortest .up).toDouble x.negative = .finite x)) ∧
      (∀ x : Double, x.finite? = none → parseNumber x.plain = none) ∧
      parseNumber Value.null.comparisonText.toList = none := by
  refine ⟨fun v => ⟨v.parseNumber_comparisonText, v.numeric?_text_comparisonText_eq_none⟩,
    fun x => ⟨x.parseNumber_plain, FiniteDouble.plain_of_isShortIntegral, fun h => ?_⟩,
    fun x => Double.parseNumber_plain_of_not_finite, by decide⟩
  exact ⟨FiniteDouble.plain_of_integer?_none (FiniteDouble.integer?_eq_none.2 h), x.toDouble_shortest .up⟩

/-- The last integral number that is written as an integer, the first one that is not, zero with a sign,
and an infinity. -/
theorem comparison_text_keeps_number_at_limit :
    let last : FiniteDouble := ⟨true, 0x433FF973CAFA7FFF, by decide⟩
    let limit : FiniteDouble := ⟨false, 0x433FF973CAFA8000, by decide⟩
    (last.IsShortIntegral ∧ last.plain = "-8999999999999999".toList ∧ parseNumber last.plain = some last ∧
        ∃ n : Int, n.natAbs < FiniteDouble.integerLimit ∧ last.units = n * Double.unitsPerOne ∧
          last.plain = integerText n) ∧
      (¬limit.IsShortIntegral ∧ parseNumber limit.plain = some limit ∧
        limit.plain = withSign limit.negative (limit.shortest .up).plain) ∧
      parseNumber (FiniteDouble.plain ⟨true, 0⟩) = some .zero ∧
      Double.finite? (.infinity true) = none ∧ parseNumber (Double.plain (.infinity true)) = none := by
  intro last limit
  obtain ⟨-, hfinite, hnone, -⟩ := comparison_text_keeps_number
  have hlast : last.IsShortIntegral := ⟨8999999999999999, by decide, by decide +kernel⟩
  have hlimit : ¬limit.IsShortIntegral := FiniteDouble.integer?_eq_none.1 (by decide +kernel)
  obtain ⟨hread, hinteger, -⟩ := hfinite last
  obtain ⟨hreadLimit, -, hshortest⟩ := hfinite limit
  exact ⟨⟨hlast, by decide +kernel, hread, hinteger hlast⟩, ⟨hlimit, hreadLimit, (hshortest hlimit).1⟩,
    (hfinite ⟨true, 0⟩).1, rfl, hnone (.infinity true) rfl⟩

end RowQuery
