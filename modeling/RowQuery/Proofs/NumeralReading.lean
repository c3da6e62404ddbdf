import RowQuery.Proofs.NearestDouble
import RowQuery.Proofs.PlainText
/-!
# Text that is read as a number

A text is a number exactly when it is a decimal numeral with white space around it, and the nearest
double to what the numeral stands for is finite. Words such as `inf` are no numerals, and a numeral
that is too large is no number.
-/

namespace RowQuery

namespace Numeral

/-- The number a numeral stands for, without its sign. The digits count in units of the last one. -/
def value (n : Numeral) : ℚ :=
  Double.decimalValue (natural (n.whole ++ n.fraction)) (n.exponent - n.fraction.length)

theorem toDouble_eq_finite_iff (n : Numeral) (x : FiniteDouble) :
    n.toDouble = .finite x ↔ x.negative = n.negative ∧ Double.IsNearest n.value x.magnitude :=
  Double.ofDecimal_eq_finite_iff n.negative _ _ x

end Numeral

/-- **The numbers of text are the finite decimal numerals.** A text is read as a number exactly when
without the white space around it, it spells a numeral whose double is finite. It spells no second
one. The number is this double: it has the sign of the numeral, and it is nearest to what the
numeral stands for. -/
theorem parseNumber_iff_spells (text : List Char) (x : FiniteDouble) :
    (parseNumber text = some x ↔ ∃ n : Numeral, n.Spells (Text.trim text) ∧ n.toDouble = .finite x) ∧
      (∀ n n' : Numeral, n.Spells (Text.trim text) → n'.Spells (Text.trim text) → n = n') ∧
      ∀ n : Numeral, n.toDouble = .finite x ↔ x.negative = n.negative ∧ Double.IsNearest n.value x.magnitude := by
  refine ⟨⟨fun h => ?_, ?_⟩, fun n n' h h' => h.unique h', fun n => n.toDouble_eq_finite_iff x⟩
  · obtain ⟨n, hparse, hn⟩ := parse?_of_parseNumber h
    exact ⟨n, Numeral.parse?_eq_some_iff.1 hparse, hn⟩
  · rintro ⟨n, hspells, hn⟩
    rw [parseNumber, Numeral.parse?_eq_some_iff.2 hspells, Option.bind_some, hn]
    rfl

/-- A point needs a digit on one side, an exponent needs one behind it, and the largest numbers are
those that round to a finite double. -/
example : parseNumber " -.5e+1\t".toList = parseNumber "-5.".toList ∧ parseNumber "-5.".toList ≠ none ∧
    parseNumber "1e308".toList ≠ none ∧
    ∀ text ∈ ["", "+", ".", "1e", "1 2", "0x1", "inf", "NaN", "1e309", "１"], parseNumber text.toList = none := by
  decide +kernel

end RowQuery
