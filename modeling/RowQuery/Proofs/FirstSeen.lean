import RowQuery.Proofs.Columns
import Mathlib.Data.List.Basic
/-!
# Names in the order in which they are first seen

A name that is seen again keeps its place. Records keep their columns this way when columns are set
one after the other, and a table collects its headers this way from all records, so both are one
list of names that is built by `Record.addColumns`.
-/

namespace RowQuery

/-- The names are those that were seen, each once, in the order in which they were first seen. -/
structure FirstSeen (names seen : List String) : Prop where
  mem_iff : ∀ name, name ∈ names ↔ name ∈ seen
  /-- Each name was first seen before all that follow it, so none is there twice. -/
  ordered : names.Pairwise fun name later => seen.idxOf name < seen.idxOf later

namespace FirstSeen

variable {names seen : List String}

theorem nil : FirstSeen [] [] := ⟨fun _ => Iff.rfl, .nil⟩

/-- No name comes before itself. -/
theorem nodup (h : FirstSeen names seen) : names.Nodup := by
  refine h.ordered.imp fun hlt heq => ?_
  rw [heq] at hlt
  exact Nat.lt_irrefl _ hlt

/-- One more name is seen. The places of those that were seen before stay the same. -/
theorem add (h : FirstSeen names seen) (name : String) :
    FirstSeen (Record.addColumn names name) (seen ++ [name]) := by
  have hkept : names.Pairwise fun other later => (seen ++ [name]).idxOf other < (seen ++ [name]).idxOf later := by
    refine h.ordered.imp_of_mem fun {other later} hother hlater hlt => ?_
    rwa [List.idxOf_append_of_mem ((h.mem_iff other).1 hother),
      List.idxOf_append_of_mem ((h.mem_iff later).1 hlater)]
  rw [Record.addColumn]
  by_cases hname : name ∈ names
  · rw [if_pos hname]
    refine ⟨fun other => ?_, hkept⟩
    rw [List.mem_append, List.mem_singleton, ← h.mem_iff]
    exact ⟨.inl, fun hother => hother.elim id fun heq => heq ▸ hname⟩
  · rw [if_neg hname]
    refine ⟨fun other => ?_, ?_⟩
    · rw [List.mem_append, List.mem_append, h.mem_iff]
    · refine List.pairwise_append.2 ⟨hkept, List.pairwise_singleton _ _, fun other hother later hlater => ?_⟩
      -- A new name is seen behind all others.
      obtain rfl := List.mem_singleton.1 hlater
      have hseen := (h.mem_iff other).1 hother
      rw [List.idxOf_append_of_mem hseen, List.idxOf_append_of_notMem (mt (h.mem_iff later).2 hname)]
      exact Nat.lt_add_right _ (List.idxOf_lt_length_iff.2 hseen)

theorem addAll (h : FirstSeen names seen) (more : List String) :
    FirstSeen (Record.addColumns names more) (seen ++ more) := by
  induction more generalizing names seen with
  | nil => rwa [List.append_nil]
  | cons name more ih =>
    rw [List.append_cons]
    exact ih (h.add name)

end FirstSeen

/-- Names that are added to none are listed as they are first seen. -/
theorem Record.firstSeen_addColumns (names : List String) : FirstSeen (addColumns [] names) names :=
  FirstSeen.nil.addAll names

end RowQuery
