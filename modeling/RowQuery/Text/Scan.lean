/-!
# Scanning

Facts about the rest of a text once something has been taken from its front.
-/

namespace RowQuery

theorem length_dropWhile_le {α : Type} (p : α → Bool) (l : List α) :
    (l.dropWhile p).length ≤ l.length := by
  induction l with
  | nil => simp
  | cons a l ih =>
    rw [List.dropWhile_cons]
    split
    · exact Nat.le_succ_of_le ih
    · exact Nat.le_refl _

/-- What takes something takes at least one element. -/
theorem length_dropWhile_lt {α : Type} {p : α → Bool} {l : List α} (h : l.takeWhile p ≠ []) :
    (l.dropWhile p).length < l.length := by
  match l with
  | [] => simp at h
  | a :: l =>
    by_cases ha : p a
    · have := length_dropWhile_le p l
      simp [ha]
      omega
    · simp [ha] at h

/-- A run of elements of a class ends at the first element outside. -/
theorem takeWhile_dropWhile_append {α : Type} {p : α → Bool} {run rest : List α} (hrun : ∀ a ∈ run, p a = true)
    (hrest : ∀ a ∈ rest.head?, p a = false) :
    (run ++ rest).takeWhile p = run ∧ (run ++ rest).dropWhile p = rest := by
  rw [List.takeWhile_append_of_pos hrun, List.dropWhile_append_of_pos hrun]
  cases rest with
  | nil => simp
  | cons a rest => simp [hrest a rfl]

end RowQuery
