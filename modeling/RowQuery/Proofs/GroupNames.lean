import RowQuery.Json.Records
import RowQuery.Proofs.AccessPaths
import RowQuery.Proofs.Partition
/-!
# Names of groups

Groups are told apart by the classes of values, and written under the texts that values are
compared by. The text of a value that is not null reads back into its class, so values of
different classes have different texts, but for null, which has the text of the empty text
(`Value.comparisonText_eq_iff`). Members of an object of groups share a name in this case alone.
-/

namespace RowQuery

theorem Double.plain_ne_nil (x : Double) : x.plain ≠ [] := by
  cases x with
  | nan => decide
  | infinity negative => cases negative <;> decide
  | finite x =>
    obtain ⟨n, hparse, -⟩ := x.parse?_plain
    intro hnil
    rw [show x.plain = [] from hnil] at hparse
    cases hparse

namespace Value

theorem comparisonText_eq_empty_iff {v : Value} : v.comparisonText = "" ↔ v = null ∨ v = text "" := by
  cases v with
  | null => simp [comparisonText]
  | text s => simp [comparisonText]
  | bool b => cases b <;> simp [comparisonText]
  | number x => simp [comparisonText, String.ofList_eq_empty_iff, x.plain_ne_nil]

/-- Values of different classes have one text if they are null and the empty text, and else not. -/
theorem comparisonText_eq_iff {a b : Value} (h : a.key ≠ b.key) :
    a.comparisonText = b.comparisonText ↔ (a = null ∧ b = text "") ∨ (a = text "" ∧ b = null) := by
  constructor
  · intro htext
    by_cases ha : a = null
    · subst ha
      rcases comparisonText_eq_empty_iff.1 htext.symm with rfl | rfl
      · exact absurd rfl h
      · exact .inl ⟨rfl, rfl⟩
    by_cases hb : b = null
    · subst hb
      rcases comparisonText_eq_empty_iff.1 htext with rfl | rfl
      · exact absurd rfl h
      · exact .inr ⟨rfl, rfl⟩
    · refine absurd ?_ h
      rw [← key_ofUntyped_comparisonText ha, htext, key_ofUntyped_comparisonText hb]
  · rintro (⟨rfl, rfl⟩ | ⟨rfl, rfl⟩) <;> rfl

end Value

namespace IsPartition

variable {column : String} {rs : Dataset} {groups : List Group}

/-- The names are distinct unless there is a group for null and one for the empty text. -/
theorem nodup_names_iff (h : IsPartition column rs groups) :
    (groups.map (·.key.comparisonText)).Nodup ↔
      ¬((∃ g ∈ groups, g.key = .null) ∧ ∃ g ∈ groups, g.key = .text "") := by
  rw [List.nodup_map_iff_inj_on h.nodup_classes.of_map]
  constructor
  · rintro hinj ⟨⟨g, hg, hnull⟩, g', hg', hempty⟩
    have hsame := hinj g hg g' hg' (by rw [hnull, hempty]; rfl)
    rw [← hsame, hnull] at hempty
    cases hempty
  · intro hnone g hg g' hg' htext
    by_contra hne
    have hclass : g.key.key ≠ g'.key.key := fun hclass => hne (h.group_eq h hg hg' hclass)
    rcases (Value.comparisonText_eq_iff hclass).1 htext with ⟨hnull, hempty⟩ | ⟨hempty, hnull⟩
    · exact hnone ⟨⟨g, hg, hnull⟩, g', hg', hempty⟩
    · exact hnone ⟨⟨g', hg', hnull⟩, g, hg, hempty⟩

end IsPartition

/-- **Names of groups collide in one case only.** The object that groups are written as has the
records of each under a name. Two groups have one name if one is that of null and the other that of
the empty text, and in no other case. So all names are distinct as soon as one of these two is
missing. -/
theorem group_names_collide (rs : Dataset) (column : String) :
    let groups := (rs.groupBy column).groups
    ∃ names : List String, names.length = groups.length ∧
      (rs.groupBy column).toJson = .object (names.zip (groups.map fun g => Dataset.toJson g.records)) ∧
      (∀ (i j : Nat) (g g' : Group), i ≠ j → groups[i]? = some g → groups[j]? = some g' →
        (names[i]? = names[j]? ↔ (g.key = .null ∧ g'.key = .text "") ∨ (g.key = .text "" ∧ g'.key = .null))) ∧
      (names.Nodup ↔ ¬((∃ g ∈ groups, g.key = .null) ∧ ∃ g ∈ groups, g.key = .text "")) := by
  intro groups
  have hpartition : IsPartition column rs groups := isPartition_groupBy rs column
  refine ⟨groups.map (·.key.comparisonText), List.length_map _, ?_, ?_, hpartition.nodup_names_iff⟩
  · rw [List.zip_map']
    rfl
  · intro i j g g' hij hg hg'
    rw [List.getElem?_map, List.getElem?_map, hg, hg', Option.map_some, Option.map_some, Option.some_inj]
    exact Value.comparisonText_eq_iff (hpartition.class_ne hij hg hg')

/-- A record without the column, one with the empty text, and values whose texts look alike. -/
theorem group_names_collide_of_missing :
    let rows : Dataset := [⟨[("k", .text "inf")]⟩, ⟨[("j", .null)]⟩, ⟨[("k", .text "")]⟩, ⟨[("k", .bool false)]⟩,
      ⟨[("k", .text " ")]⟩, ⟨[("k", .number (.infinity false))]⟩, ⟨[("k", .text "0.0")]⟩]
    let groups := (Dataset.groupBy rows "k").groups
    ∃ names : List String,
      (Dataset.groupBy rows "k").toJson = .object (names.zip (groups.map fun g => Dataset.toJson g.records)) ∧
        groups.map (·.key) = [.text "inf", .null, .text "", .bool false, .text " "] ∧
        names[1]? = names[2]? ∧ names[2]? ≠ names[4]? ∧ ¬names.Nodup := by
  intro rows groups
  obtain ⟨names, -, hobject, hnames, hnodup⟩ := group_names_collide rows "k"
  have hgroups : groups = [⟨.text "inf", [⟨[("k", .text "inf")]⟩, ⟨[("k", .number (.infinity false))]⟩]⟩,
      ⟨.null, [⟨[("j", .null)]⟩]⟩, ⟨.text "", [⟨[("k", .text "")]⟩]⟩,
      ⟨.bool false, [⟨[("k", .bool false)]⟩, ⟨[("k", .text "0.0")]⟩]⟩, ⟨.text " ", [⟨[("k", .text " ")]⟩]⟩] := by
    decide +kernel
  rw [show (Dataset.groupBy rows "k").groups = _ from hgroups] at hnames hnodup
  refine ⟨names, hobject, by rw [hgroups]; rfl, ?_, ?_, ?_⟩
  · exact (hnames 1 2 _ _ (by decide) rfl rfl).2 (by decide)
  · exact mt (hnames 2 4 _ _ (by decide) rfl rfl).1 (by decide)
  · exact mt hnodup.1 (by decide)

end RowQuery
