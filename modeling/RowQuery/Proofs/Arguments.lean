import RowQuery.CommandLine.Arguments
import Mathlib
/-!
# Arguments that are read back

Options and flags can be spelled so that reading the arguments gives them back in their order,
whatever texts the options hold (`items?_spelled`): a value that is attached to its name behind
an equals sign is never taken for an option itself.
-/

namespace RowQuery.CommandLine

/-! ## One item -/

/-- A long name that stands for an option or a flag. -/
def Known (specs : List Spec) (name : String) (role : Role) : Prop :=
  name ≠ "" ∧ '=' ∉ name.toList ∧ (specs.find? (·.name == name)).map Spec.role = some role

instance (specs : List Spec) (name : String) (role : Role) : Decidable (Known specs name role) :=
  inferInstanceAs (Decidable (_ ∧ _ ∧ _))

namespace Item

/-- The argument that spells an item, with the value of an option attached to it. -/
def spelled : Item → String
  | flag name => "--" ++ name
  | option name value _ => "--" ++ name ++ "=" ++ value
  | operand text => text

/-- A flag or an option with its value attached that the specifications know. -/
def Fits (specs : List Spec) : Item → Prop
  | flag name => Known specs name .flag
  | option name _ attached => attached = true ∧ Known specs name .value
  | operand _ => False

end Item

theorem looksLikeOption_of_long {arg name : String} {rest : List Char} (hname : name ≠ "")
    (harg : arg.toList = '-' :: '-' :: (name.toList ++ rest)) : looksLikeOption arg = true ∧ arg ≠ "--" := by
  have hne : name.toList ≠ [] := mt String.toList_eq_nil_iff.1 hname
  obtain ⟨c, cs, hcs⟩ := List.exists_cons_of_ne_nil hne
  constructor
  · rw [looksLikeOption, harg, hcs]
    rfl
  · rintro rfl
    exact hne (List.append_eq_nil_iff.1 (List.cons.inj (List.cons.inj harg).2).2.symm).1

/-- A long name ends at its equals sign, if there is one. -/
theorem splitLong_of_name {name : String} (h : '=' ∉ name.toList) :
    splitLong name.toList = (name, none) ∧
      ∀ value : List Char, splitLong (name.toList ++ '=' :: value) = (name, some (String.ofList value)) := by
  have hall : ∀ c ∈ name.toList, decide (c ≠ '=') = true := by
    intro c hc
    rw [decide_eq_true_iff]
    rintro rfl
    exact h hc
  constructor
  · rw [splitLong, List.takeWhile_eq_self_iff.2 hall, List.dropWhile_eq_nil_iff.2 hall, String.ofList_toList]
  · intro value
    rw [splitLong, List.takeWhile_append_of_pos hall, List.dropWhile_append_of_pos hall,
      List.takeWhile_cons_of_neg (by simp), List.dropWhile_cons_of_neg (by simp), List.append_nil,
      String.ofList_toList]

/-- A long argument with a known name is an option with the role of this name. -/
theorem named?_of_long {specs : List Spec} {arg name : String} {role : Role} {rest : List Char} {value? : Option String}
    (hknown : Known specs name role) (harg : arg.toList = '-' :: '-' :: (name.toList ++ rest))
    (hsplit : splitLong (name.toList ++ rest) = (name, value?)) :
    looksLikeOption arg = true ∧ arg ≠ "--" ∧
      ∃ spec : Spec, named? specs arg = some (spec, value?) ∧ spec.name = name ∧ spec.role = role := by
  obtain ⟨hne, -, hfound⟩ := hknown
  obtain ⟨hlooks, hdashes⟩ := looksLikeOption_of_long hne harg
  obtain ⟨spec, hfind, hrole⟩ := Option.map_eq_some_iff.1 hfound
  refine ⟨hlooks, hdashes, spec, ?_, ?_, hrole⟩
  · rw [named?, harg]
    simp only [hsplit, hfind]
    rfl
  · simpa using List.find?_some hfind

section
variable {specs : List Spec} {stops : List String} (hstops : ∀ stop ∈ stops, looksLikeOption stop = false)

include hstops

/-- Reading goes past an argument that spells an item. -/
theorem items?_spelled_cons {item : Item} (h : item.Fits specs) (args : List String) :
    items? specs stops false (item.spelled :: args) = consItem item (items? specs stops false args) := by
  have hstop : looksLikeOption item.spelled = true → stops.contains item.spelled = false := by
    intro hlooks
    rw [List.contains_eq_mem, decide_eq_false_iff_not]
    intro hmem
    rw [hstops _ hmem] at hlooks
    cases hlooks
  cases item with
  | flag name =>
    have harg : (Item.flag name).spelled.toList = '-' :: '-' :: (name.toList ++ []) := by simp [Item.spelled]
    obtain ⟨hlooks, hdashes, spec, hnamed, hname, hrole⟩ := named?_of_long h harg
      (by simpa using (splitLong_of_name h.2.1).1)
    rw [items?, if_neg (by simp), hstop hlooks, if_neg (by simp), if_neg hdashes, if_pos hlooks, hnamed]
    simp only [hrole, hname]
  | option name value attached =>
    obtain ⟨rfl, hknown⟩ := h
    have harg : (Item.option name value true).spelled.toList = '-' :: '-' :: (name.toList ++ '=' :: value.toList) := by
      simp [Item.spelled]
    obtain ⟨hlooks, hdashes, spec, hnamed, hname, hrole⟩ := named?_of_long hknown harg
      ((splitLong_of_name hknown.2.1).2 value.toList)
    rw [items?, if_neg (by simp), hstop hlooks, if_neg (by simp), if_neg hdashes, if_pos hlooks, hnamed]
    simp only [hrole, hname, String.ofList_toList]
  | operand text => exact h.elim

/-- Reading gives spelled items back, in front of what is read behind them. -/
theorem items?_spelled {items : List Item} (h : ∀ item ∈ items, item.Fits specs) (args : List String) :
    items? specs stops false (items.map Item.spelled ++ args) =
      (items? specs stops false args).map fun read => (items ++ read.1, read.2) := by
  induction items with
  | nil => simp
  | cons item items ih =>
    obtain ⟨hitem, hitems⟩ := List.forall_mem_cons.1 h
    rw [List.map_cons, List.cons_append, items?_spelled_cons hstops hitem, ih hitems, consItem, Option.map_map]
    rfl

end

/-! ## Looking spelled items up -/

section
variable {specs : List Spec} {items : List Item}

theorem operands_of_fits (h : ∀ item ∈ items, item.Fits specs) : operands items = [] := by
  rw [operands, List.filterMap_eq_nil_iff]
  intro item hitem
  cases item with
  | flag | option => rfl
  | operand text => exact (h _ hitem).elim

/-- No value is looked for in the next argument. -/
theorem settled_of_fits (h : ∀ item ∈ items, item.Fits specs) : settled items = items := by
  unfold settled
  split
  next name value hlast => exact absurd (h _ (List.mem_of_getLast? hlast)).1 (by decide)
  next => rfl

end

theorem values_append (items more : List Item) (name : String) :
    values (items ++ more) name = values items name ++ values more name := List.filterMap_append

theorem values_option_cons (option value : String) (attached : Bool) (items : List Item) (name : String) :
    values (.option option value attached :: items) name =
      (if option = name then [value] else []) ++ values items name := by
  rw [values, List.filterMap_cons]
  split <;> split <;> simp_all [values]

theorem single?_of_values {items : List Item} {name : String} {value? : Option String}
    (h : values items name = value?.toList) : single? items name = some value? := by
  rw [single?, h]
  cases value? <;> rfl

/-! ## Values of options -/

theorem convert?_map {α β : Type} {read? : String → Option β} {text : α → String} {value : α → β}
    (h : ∀ x, read? (text x) = some (value x)) (x? : Option α) :
    convert? read? (x?.map text) = some (x?.map value) := by
  cases x? with
  | none => rfl
  | some x => exact congrArg (Option.map some) (h x)

theorem path?_of_ne {text : String} (h : text ≠ "") : path? text = some text := if_neg h

end RowQuery.CommandLine
