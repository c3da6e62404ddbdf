import RowQuery.Proofs.Numeral
/-!
# Plain text reads back

The plain text of a finite number is a numeral that reads as this number, on both
branches: an integer by its digits, any other number by its shortest decimal. Only the
sign of zero is lost. Infinities and what is not a number have no numeral for a text.

So the text a value is compared by says what number the value is, or that it is none.
-/

namespace RowQuery

namespace FiniteDouble

/-! ## The sign of zero -/

/-- The number with the two zeros merged. -/
def normalizeZero (x : FiniteDouble) : FiniteDouble := if x.rank = 0 then zero else x

theorem rank_eq_zero_iff {x : FiniteDouble} : x.rank = 0 ↔ x.absUnits = 0 := by
  have hrank : x.rank = 0 ↔ x.magnitude.val = 0 := by
    unfold rank
    split <;> omega
  rw [hrank]
  constructor
  · intro h
    rw [absUnits, h]
    rfl
  · exact Double.magnitudeUnits_eq_zero

theorem normalizeZero_of_absUnits {x : FiniteDouble} (h : x.absUnits ≠ 0) : x.normalizeZero = x := by
  unfold normalizeZero
  rw [if_neg (mt rank_eq_zero_iff.1 h)]

theorem normalizeZero_of_zero {x : FiniteDouble} (h : x.absUnits = 0) : x.normalizeZero = zero := by
  unfold normalizeZero
  rw [if_pos (rank_eq_zero_iff.2 h)]

@[simp] theorem rank_normalizeZero (x : FiniteDouble) : x.normalizeZero.rank = x.rank := by
  unfold normalizeZero
  split
  next h => rw [h]; rfl
  next => rfl

/-- Beyond the sign of zero, a number is its rank. -/
theorem normalizeZero_inj {x y : FiniteDouble} : x.normalizeZero = y.normalizeZero ↔ x.rank = y.rank := by
  constructor
  · intro h
    rw [← rank_normalizeZero x, h, rank_normalizeZero]
  · intro h
    unfold normalizeZero
    by_cases hy : y.rank = 0
    · rw [if_pos (h.trans hy), if_pos hy]
    · rw [if_neg (h ▸ hy), if_neg hy]
      obtain ⟨negx, magx⟩ := x
      obtain ⟨negy, magy⟩ := y
      simp only [rank] at h hy
      cases negx <;> cases negy <;> simp only [Bool.false_eq_true, if_true, if_false] at h hy
      all_goals first
        | exact absurd h (by omega)
        | exact congrArg _ (Fin.ext (by omega))

/-- Numbers with the zeros merged have one rank exactly when they have one word, so the rank
in a key stands for the word. -/
theorem rank_eq_iff_toBits {x y : FiniteDouble} :
    x.rank = y.rank ↔ (Double.finite x.normalizeZero).toBits = (Double.finite y.normalizeZero).toBits := by
  rw [← normalizeZero_inj]
  refine ⟨fun h => by rw [h], fun h => ?_⟩
  generalize x.normalizeZero = a, y.normalizeZero = b at h ⊢
  obtain ⟨nega, maga, ha⟩ := a
  obtain ⟨negb, magb, hb⟩ := b
  have hsign : Double.magnitudeCount < Double.signBit := by decide
  simp only [Double.toBits] at h
  cases nega <;> cases negb <;> simp only [Bool.false_eq_true, if_true, if_false] at h
  all_goals first
    | exact congrArg _ (Fin.ext (by simpa using h))
    | omega

end FiniteDouble

theorem parseNumber_of_parse? {cs : List Char} {n : Numeral} (h : Numeral.parse? cs = some n) :
    parseNumber cs = n.toDouble.finite? := by
  unfold parseNumber
  rw [Numeral.trim_of_parse? h, h]
  rfl

theorem parse?_of_parseNumber {text : List Char} {x : FiniteDouble} (h : parseNumber text = some x) :
    ∃ n, Numeral.parse? (Text.trim text) = some n ∧ n.toDouble = .finite x := by
  obtain ⟨n, hparse, hn⟩ := Option.bind_eq_some_iff.1 h
  refine ⟨n, hparse, ?_⟩
  cases hd : n.toDouble with
  | finite y =>
    rw [hd] at hn
    exact congrArg Double.finite (Option.some.inj hn)
  | _ =>
    rw [hd] at hn
    cases hn

namespace FiniteDouble

/-! ## Numbers -/

/-- An integral number below the limit is written by the digits of its absolute value. -/
theorem of_integer? {x : FiniteDouble} {n : Int} (h : x.integer? = some n) :
    x.absUnits = n.natAbs * Double.unitsPerOne ∧ (n ≠ 0 → decide (n < 0) = x.negative) := by
  unfold integer? at h
  dsimp only at h
  split at h
  next hint =>
    have hunits : x.absUnits = x.absUnits / Double.unitsPerOne * Double.unitsPerOne :=
      (Nat.div_mul_cancel (Nat.dvd_of_mod_eq_zero hint.1)).symm
    generalize x.absUnits / Double.unitsPerOne = whole at h hunits
    obtain rfl := Option.some.inj h
    rw [hunits]
    cases x.negative with
    | true => exact ⟨by simp, by simp; omega⟩
    | false => exact ⟨by simp, by simp⟩
  next => cases h

theorem absUnits_ne_zero_of_integer? {x : FiniteDouble} (h : x.integer? = none) : x.absUnits ≠ 0 := by
  intro h0
  unfold integer? at h
  dsimp only at h
  rw [h0] at h
  simp at h

/-- The numeral that the plain text of a number is. -/
theorem parse?_plain (x : FiniteDouble) :
    ∃ n, Numeral.parse? x.plain = some n ∧ n.toDouble = .finite x.normalizeZero := by
  unfold plain
  cases hint : x.integer? with
  | none =>
    rw [normalizeZero_of_absUnits (absUnits_ne_zero_of_integer? hint)]
    obtain ⟨n, hparse, hn⟩ := (x.shortest .up).toDouble_parse?_plain x.negative
    exact ⟨n, hparse, hn.trans (toDouble_shortest .up x)⟩
  | some n =>
    obtain ⟨hunits, hsign⟩ := of_integer? hint
    by_cases hn : n = 0
    · subst hn
      rw [normalizeZero_of_zero (by simpa using hunits)]
      exact ⟨_, rfl, rfl⟩
    · have hne : x.absUnits ≠ 0 := by
        rw [hunits]
        exact Nat.mul_ne_zero (by omega) (Nat.ne_of_gt Double.unitsPerOne_pos)
      refine ⟨_, Numeral.parse?_whole _ Nat.toDigits_ne_nil
        (fun c hc => Nat.isDigit_of_mem_toDigits (by decide) (by decide) hc), ?_⟩
      rw [normalizeZero_of_absUnits hne, Numeral.toDouble, hsign hn, List.append_nil]
      show Double.ofDecimal x.negative (Numeral.natural (digitsOf n.natAbs)) 0 = .finite x
      rw [Numeral.natural_digitsOf]
      exact ofDecimal_whole hunits

end FiniteDouble

namespace Double

/-- Only finite numbers are written as numerals. -/
theorem parseNumber_plain (x : Double) :
    parseNumber x.plain = x.finite?.map FiniteDouble.normalizeZero := by
  cases x with
  | nan => decide
  | infinity negative => cases negative <;> decide
  | finite x =>
    obtain ⟨n, hparse, hn⟩ := x.parse?_plain
    exact (parseNumber_of_parse? hparse).trans (congrArg finite? hn)

end Double

/-! ## Values -/

namespace Value

/-- The text a value is compared by reads as the number of the value, or as none. -/
theorem parseNumber_comparisonText (v : Value) :
    (parseNumber v.comparisonText.toList).map FiniteDouble.normalizeZero =
      v.numeric?.map FiniteDouble.normalizeZero := by
  cases v with
  | null => decide
  | number x =>
    rw [comparisonText, numeric?, String.toList_ofList, Double.parseNumber_plain, Option.map_map]
    congr 1
    funext y
    exact FiniteDouble.normalizeZero_inj.2 (FiniteDouble.rank_normalizeZero y)
  | text s => rfl
  | bool b => cases b <;> decide +kernel

theorem isSome_parseNumber_comparisonText (v : Value) :
    (parseNumber v.comparisonText.toList).isSome = v.numeric?.isSome := by
  simpa using congrArg Option.isSome v.parseNumber_comparisonText

/-- What is numeric and what is not are never compared by the same text. -/
theorem comparisonText_ne_of_numeric? {a b : Value} {x : FiniteDouble} (ha : a.numeric? = some x)
    (hb : b.numeric? = none) : a.comparisonText ≠ b.comparisonText := by
  intro h
  have hsome := a.isSome_parseNumber_comparisonText
  rw [h, b.isSome_parseNumber_comparisonText, ha, hb] at hsome
  cases hsome

end Value

end RowQuery
