/-!
# Ordered entries

Entries from names to values that keep the order in which the names were first set.
-/

namespace RowQuery

/-- Sets a name. A name that is there keeps its position; a new one comes last. -/
def setEntry {α : Type} (name : String) (value : α) : List (String × α) → List (String × α)
  | [] => [(name, value)]
  | entry :: entries =>
    if entry.1 = name then (name, value) :: entries
    else entry :: setEntry name value entries

/-- Sets names one after the other. -/
def setEntries {α : Type} (entries new : List (String × α)) : List (String × α) :=
  new.foldl (fun entries entry => setEntry entry.1 entry.2 entries) entries

/-- The name that was set is found with its value, and every other name as before. -/
theorem find?_setEntry {α : Type} (name : String) (value : α) (entries : List (String × α)) (other : String) :
    (setEntry name value entries).find? (·.1 == other) =
      if name = other then some (name, value) else entries.find? (·.1 == other) := by
  induction entries with
  | nil =>
    rw [setEntry, List.find?_singleton]
    simp
  | cons entry entries ih =>
    rw [setEntry]
    by_cases hentry : entry.1 = name
    · by_cases hname : name = other <;> simp [hentry, hname]
    · rw [if_neg hentry]
      by_cases hother : entry.1 = other
      · have hname : name ≠ other := fun hname => hentry (hother.trans hname.symm)
        simp [hother, hname]
      · simp [hother, ih]

theorem setEntry_of_not_mem {α : Type} {name : String} (value : α) {entries : List (String × α)}
    (h : name ∉ entries.map (·.1)) : setEntry name value entries = entries ++ [(name, value)] := by
  induction entries with
  | nil => rfl
  | cons entry entries ih =>
    rw [List.map_cons, List.mem_cons, not_or] at h
    rw [setEntry, if_neg (Ne.symm h.1), ih h.2, List.cons_append]

theorem setEntries_append {α : Type} {entries new : List (String × α)}
    (h : ((entries ++ new).map (·.1)).Nodup) : setEntries entries new = entries ++ new := by
  induction new generalizing entries with
  | nil => exact (List.append_nil entries).symm
  | cons entry new ih =>
    have hsplit : entries ++ entry :: new = entries ++ [entry] ++ new := by simp
    rw [hsplit] at h ⊢
    have hentry : entry.1 ∉ entries.map (·.1) := by
      rw [List.map_append, List.map_append] at h
      exact fun hmem => (List.nodup_append.1 (List.nodup_append.1 h).1).2.2 _ hmem _ (by simp) rfl
    rw [← ih h, ← setEntry_of_not_mem entry.2 hentry]
    rfl

/-- Distinct names are all kept, in order. -/
theorem setEntries_nil {α : Type} {entries : List (String × α)} (h : (entries.map (·.1)).Nodup) :
    setEntries [] entries = entries :=
  setEntries_append h

end RowQuery
