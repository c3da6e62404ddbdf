import RowQuery.Condition.Evaluation
import Mathlib
/-!
# What decides a condition

The results of the comparisons are joined from left to right. Said without running through them
(`Condition.holds_iff_last_start`): some true result stands first or behind OR, and from there on
every result behind AND is true. For this the first result counts as joined to false by OR
(`Condition.holds_eq_joinResults`), so that the first position is no special case.
-/

namespace RowQuery

/-! ## Joining results -/

/-- The connective at a position, where AND follows the last one without end. -/
def padded (connectives : List Connective) (i : Nat) : Connective := connectives.getD i .and

theorem padded_zero (connectives : List Connective) : padded connectives 0 = connectives.headD .and := by
  cases connectives <;> rfl

theorem padded_succ (connectives : List Connective) (i : Nat) :
    padded connectives (i + 1) = padded connectives.tail i := by
  cases connectives <;> rfl

/-- From the position `start` on, every result behind AND is true. -/
def Lasts (results : List Bool) (connectives : List Connective) (start : Nat) : Prop :=
  ∀ (j : Nat) (hj : j < results.length), start ≤ j → padded connectives j = .and → results[j] = true

/-- At the position `i` a true result stands behind OR. -/
def Starts (results : List Bool) (connectives : List Connective) (i : Nat) : Prop :=
  (∃ hi : i < results.length, results[i] = true) ∧ padded connectives i = .or

section
variable (next : Bool) (results : List Bool) (connectives : List Connective)

theorem lasts_succ (start : Nat) :
    Lasts (next :: results) connectives (start + 1) ↔ Lasts results connectives.tail start := by
  constructor
  · intro h j hj hstart hand
    rw [← padded_succ] at hand
    exact h (j + 1) (Nat.succ_lt_succ hj) (Nat.succ_le_succ hstart) hand
  · intro h j hj hstart hand
    cases j with
    | zero => exact absurd hstart (Nat.not_succ_le_zero start)
    | succ j =>
      rw [padded_succ] at hand
      exact h j (Nat.lt_of_succ_lt_succ hj) (Nat.le_of_succ_le_succ hstart) hand

theorem lasts_zero :
    Lasts (next :: results) connectives 0 ↔
      (connectives.headD .and = .and → next = true) ∧ Lasts results connectives.tail 0 := by
  rw [← lasts_succ next, ← padded_zero]
  constructor
  · intro h
    exact ⟨h 0 (Nat.succ_pos _) (Nat.le_refl 0), fun j hj _ => h j hj (Nat.zero_le j)⟩
  · rintro ⟨hfirst, h⟩ j hj - hand
    cases j with
    | zero => exact hfirst hand
    | succ j => exact h (j + 1) hj (Nat.succ_le_succ (Nat.zero_le j)) hand

theorem starts_zero :
    Starts (next :: results) connectives 0 ↔ next = true ∧ connectives.headD .and = .or := by
  rw [Starts, padded_zero]
  simp

theorem starts_succ (i : Nat) :
    Starts (next :: results) connectives (i + 1) ↔ Starts results connectives.tail i := by
  rw [Starts, Starts, padded_succ]
  simp

end

/-- Joined results are true if the one at hand is true and lasts, or if one starts anew and lasts. -/
theorem joinResults_iff (result : Bool) (results : List Bool) (connectives : List Connective) :
    joinResults result results connectives = true ↔
      (result = true ∧ Lasts results connectives 0) ∨
        ∃ i, Starts results connectives i ∧ Lasts results connectives (i + 1) := by
  induction results generalizing result connectives with
  | nil => simp [joinResults, Lasts, Starts]
  | cons next results ih =>
    have hstarts : (∃ i, Starts (next :: results) connectives i ∧ Lasts (next :: results) connectives (i + 1)) ↔
        ((next = true ∧ connectives.headD .and = .or) ∧ Lasts results connectives.tail 0) ∨
          ∃ i, Starts results connectives.tail i ∧ Lasts results connectives.tail (i + 1) := by
      rw [← Nat.or_exists_add_one]
      simp only [starts_zero, starts_succ, lasts_succ]
    rw [joinResults, ih, lasts_zero, hstarts]
    -- Behind AND the result at hand goes on only with the next one, behind OR with either.
    cases connectives.headD .and with
    | and => simp [Connective.join, and_assoc]
    | or => simp [Connective.join, or_and_right, or_assoc]

/-- Only as many connectives are looked at as there are results to join. -/
theorem joinResults_take (result : Bool) (results : List Bool) (connectives : List Connective) :
    joinResults result results (connectives.take results.length) = joinResults result results connectives := by
  induction results generalizing result connectives with
  | nil => rfl
  | cons next results ih =>
    cases connectives with
    | nil => rfl
    | cons k connectives => exact ih _ connectives

namespace Condition

theorem map_comparison_comparisons (c : Condition) :
    c.comparisons.map Term.comparison = c.terms.filter (· matches .comparison _) := by
  rw [comparisons, List.map_filterMap, ← List.filterMap_eq_filter]
  refine List.filterMap_congr fun t _ => ?_
  cases t <;> rfl

theorem map_connective_connectives (c : Condition) :
    c.connectives.map Term.connective = c.terms.filter (· matches .connective _) := by
  rw [connectives, List.map_filterMap, ← List.filterMap_eq_filter]
  refine List.filterMap_congr fun t _ => ?_
  cases t <;> rfl

/-- The connective in front of the comparison at a position. AND stands in for a missing one. -/
def connectiveBefore (c : Condition) (i : Nat) : Connective := padded c.connectives (i - 1)

theorem padded_or_of_pos (c : Condition) {i : Nat} (h : 0 < i) :
    padded (.or :: c.connectives) i = c.connectiveBefore i := by
  obtain ⟨i, rfl⟩ := Nat.exists_eq_add_one_of_ne_zero (Nat.ne_of_gt h)
  exact padded_succ _ i

theorem padded_or_iff (c : Condition) (i : Nat) :
    padded (.or :: c.connectives) i = .or ↔ i = 0 ∨ c.connectiveBefore i = .or := by
  cases i with
  | zero => simp [padded_zero]
  | succ i => simp [c.padded_or_of_pos (Nat.succ_pos i)]

theorem holds_eq_joinResults (c : Condition) (r : Record) :
    c.holds r = joinResults false (c.comparisons.map (·.holds r)) (.or :: c.connectives) := by
  rw [holds]
  cases c.comparisons.map (·.holds r) <;> rfl

/-- A condition is decided by its comparisons and by as many connectives as can stand between them. -/
theorem holds_of_same_terms {c d : Condition} (hcomparisons : d.comparisons = c.comparisons)
    (hconnectives : d.connectives.take (c.comparisons.length - 1) = c.connectives.take (c.comparisons.length - 1))
    (r : Record) : d.holds r = c.holds r := by
  have htake : (Connective.or :: d.connectives).take (c.comparisons.map (·.holds r)).length =
      (Connective.or :: c.connectives).take (c.comparisons.map (·.holds r)).length := by
    rw [List.length_map]
    cases h : c.comparisons.length with
    | zero => rfl
    | succ n =>
      rw [h] at hconnectives
      exact congrArg (Connective.or :: ·) hconnectives
  rw [holds_eq_joinResults, holds_eq_joinResults, hcomparisons, ← joinResults_take, htake, joinResults_take]

/-- **What decides a condition.** A record satisfies a condition exactly if some comparison that
stands first or behind OR is true, and behind it every comparison that stands behind AND is true.
Nothing else plays a part: not the invalid segments, and not the connectives that are left when
all comparisons are joined. A condition without comparisons is satisfied by no record. The comparisons
and the connectives are those among the terms, in their order, and AND stands in for a connective that
is missing. -/
theorem holds_iff_last_start (c : Condition) (r : Record) :
    c.comparisons.map Term.comparison = c.terms.filter (· matches .comparison _) ∧
      c.connectives.map Term.connective = c.terms.filter (· matches .connective _) ∧
      (∀ i, c.connectiveBefore i = c.connectives.getD (i - 1) .and) ∧
      (c.holds r = true ↔
        ∃ (i : Nat) (hi : i < c.comparisons.length), c.comparisons[i].holds r = true ∧
          (i = 0 ∨ c.connectiveBefore i = .or) ∧
            ∀ (j : Nat) (hj : j < c.comparisons.length), i < j → c.connectiveBefore j = .and →
              c.comparisons[j].holds r = true) ∧
      (∀ d : Condition, d.comparisons = c.comparisons →
        d.connectives.take (c.comparisons.length - 1) = c.connectives.take (c.comparisons.length - 1) →
          d.holds r = c.holds r) ∧
      (c.comparisons = [] → c.holds r = false) := by
  refine ⟨c.map_comparison_comparisons, c.map_connective_connectives, fun _ => rfl, ?_,
    fun d hcomparisons hconnectives => holds_of_same_terms hcomparisons hconnectives r, fun hnone => ?_⟩
  · rw [holds_eq_joinResults, joinResults_iff]
    simp only [Bool.false_eq_true, false_and, false_or, Starts, Lasts, List.length_map, List.getElem_map]
    refine exists_congr fun i => ?_
    rw [c.padded_or_iff i]
    constructor
    · rintro ⟨⟨⟨hi, htrue⟩, hstart⟩, hlasts⟩
      refine ⟨hi, htrue, hstart, fun j hj hij hand => hlasts j hj hij ?_⟩
      exact (c.padded_or_of_pos (Nat.zero_lt_of_lt hij)).trans hand
    · rintro ⟨hi, htrue, hstart, hlasts⟩
      refine ⟨⟨⟨hi, htrue⟩, hstart⟩, fun j hj hij hand => hlasts j hj hij ?_⟩
      exact (c.padded_or_of_pos (Nat.zero_lt_of_lt hij)).symm.trans hand
  · rw [holds, hnone]
    rfl

/-- The invalid segment takes no place, so that the comparisons are joined by AND and OR is left. -/
example : holds ⟨[.comparison ⟨"a", .equal, .text "x"⟩, .connective .and, .invalid "b", .connective .or,
    .comparison ⟨"c", .equal, .text "y"⟩]⟩ ⟨[("c", .text "y")]⟩ = false := by decide +kernel

end Condition

end RowQuery
