import RowQuery.Pipeline
import Mathlib.Data.Rat.Floor
/-!
# Pages tile a dataset

The position at which a page starts is a product that is cut off at the largest position. No dataset
reaches that far, so a page has the records that the exact product says (`Dataset.data_page`), for any
page and size. A page starts where the one before ends, and the number of pages is the least that
reaches the end (`Dataset.pages_le_iff`).
-/

namespace RowQuery

namespace Dataset

/-! ## Slices -/

/-- The records at positions from `start` up to but excluding `stop`. -/
def slice (rs : Dataset) (start stop : Nat) : Dataset :=
  (rs.zipIdx.filter fun entry => start ≤ entry.2 ∧ entry.2 < stop).map (·.1)

/-- The slice of a dataset whose first record has the position `k`. -/
theorem map_filter_zipIdx (rs : Dataset) (start stop k : Nat) :
    (((rs.zipIdx k).filter fun entry => start ≤ entry.2 ∧ entry.2 < stop).map (·.1)) =
      (rs.take (stop - k)).drop (start - k) := by
  induction rs generalizing k with
  | nil => simp
  | cons r rs ih =>
    rw [List.zipIdx_cons, List.filter_cons]
    split
    next hin =>
      have hin : start ≤ k ∧ k < stop := by simpa using hin
      rw [List.map_cons, ih, show stop - k = stop - (k + 1) + 1 by omega, List.take_succ_cons,
        show start - (k + 1) = 0 by omega, show start - k = 0 by omega, List.drop_zero, List.drop_zero]
    next hout =>
      have hout : ¬(start ≤ k ∧ k < stop) := by simpa using hout
      rw [ih]
      by_cases hstop : k < stop
      · rw [show stop - k = stop - (k + 1) + 1 by omega, show start - k = start - (k + 1) + 1 by omega,
          List.take_succ_cons, List.drop_succ_cons]
      · rw [show stop - (k + 1) = 0 by omega, show stop - k = 0 by omega, List.take_zero, List.take_zero,
          List.drop_nil, List.drop_nil]

theorem slice_eq (rs : Dataset) (start stop : Nat) : rs.slice start stop = (rs.drop start).take (stop - start) := by
  rw [slice, map_filter_zipIdx, List.drop_take, Nat.sub_zero, Nat.sub_zero]

/-! ## One page -/

variable {rs : Dataset} {page perPage : Nat}

/-- Where the position is cut off, there are no records left anyway. -/
theorem drop_pageOffset (h : rs.length ≤ lastPosition) (page perPage : Nat) :
    rs.drop (pageOffset page perPage) = rs.drop ((max page 1 - 1) * perPage) := by
  rw [pageOffset]
  rcases Nat.le_total ((max page 1 - 1) * perPage) lastPosition with hfits | hcut
  · rw [Nat.min_eq_left hfits]
  · rw [Nat.min_eq_right hcut, List.drop_eq_nil_of_le h, List.drop_eq_nil_of_le (h.trans hcut)]

theorem data_page (h : rs.length ≤ lastPosition) (hper : 0 < perPage) (page : Nat) :
    (rs.page page perPage).data = rs.limit perPage ((max page 1 - 1) * perPage) := by
  rw [Dataset.page, if_neg (Nat.ne_of_gt hper)]
  show rs.limit perPage (pageOffset page perPage) = _
  rw [limit, limit, drop_pageOffset h]

theorem total_page (rs : Dataset) (page perPage : Nat) : (rs.page page perPage).total = rs.length := by
  rw [Dataset.page]
  split <;> rfl

theorem length_data_page_le (h : rs.length ≤ lastPosition) (hper : 0 < perPage) (page : Nat) :
    (rs.page page perPage).data.length ≤ perPage := by
  rw [data_page h hper, limit]
  exact List.length_take_le _ _

theorem data_page_eq_slice (h : rs.length ≤ lastPosition) (hper : 0 < perPage) (page : Nat) :
    (rs.page page perPage).data = rs.slice ((max page 1 - 1) * perPage) (max page 1 * perPage) := by
  have hsize : max page 1 * perPage - (max page 1 - 1) * perPage = perPage := by
    rw [← Nat.sub_mul, Nat.sub_sub_self (Nat.le_max_right page 1), Nat.one_mul]
  rw [data_page h hper, limit, slice_eq, hsize]

/-! ## All pages -/

/-- So many pages reach the end of the dataset exactly if they are no fewer than there are. -/
theorem pages_le_iff (hper : 0 < perPage) (page n : Nat) :
    (rs.page page perPage).pages ≤ n ↔ rs.length ≤ n * perPage := by
  rw [Dataset.page, if_neg (Nat.ne_of_gt hper)]
  show (rs.length + perPage - 1) / perPage ≤ n ↔ _
  rw [Nat.div_le_iff_le_mul hper]
  omega

theorem pages_eq_ceil (hper : 0 < perPage) (page : Nat) :
    (rs.page page perPage).pages = ⌈(rs.length : ℚ) / perPage⌉₊ := by
  refine eq_of_forall_ge_iff fun n => ?_
  rw [pages_le_iff hper, Nat.ceil_le, div_le_iff₀ (by exact_mod_cast hper)]
  exact_mod_cast Iff.rfl

/-- The first pages one after the other are the first records. -/
theorem flatMap_page (h : rs.length ≤ lastPosition) (hper : 0 < perPage) (n : Nat) :
    ((List.range' 1 n).flatMap fun page => (rs.page page perPage).data) = rs.take (n * perPage) := by
  induction n with
  | zero => simp
  | succ n ih =>
    have hlast : max (1 + 1 * n) 1 - 1 = n := by omega
    rw [List.range'_concat, List.flatMap_append, ih, List.flatMap_singleton, data_page h hper, hlast, limit,
      Nat.succ_mul, List.take_add]

theorem data_page_ne_nil (h : rs.length ≤ lastPosition) (hper : 0 < perPage) (hfirst : 1 ≤ page)
    (hlast : page ≤ (rs.page page perPage).pages) : (rs.page page perPage).data ≠ [] := by
  have hbefore : (page - 1) * perPage < rs.length := by
    rw [← not_le, ← pages_le_iff hper page]
    omega
  rw [data_page h hper, Nat.max_eq_left hfirst, limit, ← List.length_pos_iff, List.length_take, List.length_drop]
  omega

theorem data_page_of_pages_lt (h : rs.length ≤ lastPosition) (hper : 0 < perPage)
    (hlater : (rs.page page perPage).pages < page) : (rs.page page perPage).data = [] := by
  have hend : rs.length ≤ (page - 1) * perPage := (pages_le_iff hper page _).1 (by omega)
  rw [data_page h hper, Nat.max_eq_left (by omega), limit, List.drop_eq_nil_of_le hend, List.take_nil]

end Dataset

/-- **Pages tile a dataset.** Pages of size zero are empty, and there are none. For any other size their
number is the size of the dataset by that of a page, rounded up. A page has the records at the positions
from its start up to the start of the next, which are exact products, also where these do not fit in a
position, and page zero is page one; so it is what a limit leaves from a start that fits. The pages up
to the last are not empty and have no more records than their size, they are the dataset when put
together, and behind them all pages are empty. -/
theorem pages_tile (p : Pipeline) (h : p.current.length ≤ lastPosition) :
    (∀ page, (Dataset.page p.current page 0).data = [] ∧ (Dataset.page p.current page 0).pages = 0) ∧
      ∀ perPage, 0 < perPage →
        let read (page : Nat) : Page := Dataset.page p.current page perPage
        let count := ⌈(p.current.length : ℚ) / perPage⌉₊
        (∀ page, (read page).total = p.current.length ∧ (read page).pages = count) ∧
          (∀ page, (read page).data = p.current.slice ((max page 1 - 1) * perPage) (max page 1 * perPage)) ∧
          (∀ page, (max page 1 - 1) * perPage ≤ lastPosition →
            (read page).data = (p.limit perPage ((max page 1 - 1) * perPage)).current) ∧
          (∀ page, 1 ≤ page → page ≤ count → (read page).data ≠ [] ∧ (read page).data.length ≤ perPage) ∧
          ((List.range' 1 count).flatMap fun page => (read page).data) = p.current ∧
          ∀ page, count < page → (read page).data = [] := by
  refine ⟨fun page => ⟨rfl, rfl⟩, fun perPage hper => ?_⟩
  intro read count
  have hcount : ∀ page, (read page).pages = count := Dataset.pages_eq_ceil hper
  refine ⟨fun page => ⟨Dataset.total_page _ page perPage, hcount page⟩, Dataset.data_page_eq_slice h hper,
    fun page _ => Dataset.data_page h hper page, fun page hfirst hlast => ⟨?_, ?_⟩, ?_, fun page hlater => ?_⟩
  · exact Dataset.data_page_ne_nil h hper hfirst (hlast.trans_eq (hcount page).symm)
  · exact Dataset.length_data_page_le h hper page
  · refine (Dataset.flatMap_page h hper count).trans (List.take_of_length_le ?_)
    exact (Dataset.pages_le_iff hper 1 count).1 (hcount 1).le
  · exact Dataset.data_page_of_pages_lt h hper ((hcount page).trans_lt hlater)

/-- Three pages, the last of them short. The page with the largest number would start beyond the last
position, and a page of the largest size has all records. -/
theorem pages_tile_of_five :
    let rows : Dataset := [⟨[("i", .text "a")]⟩, ⟨[("i", .text "b")]⟩, ⟨[("i", .text "c")]⟩, ⟨[("i", .text "d")]⟩,
      ⟨[("i", .text "e")]⟩]
    let p : Pipeline := .ofDataset rows .standard
    let read (page : Nat) : Dataset := (Dataset.page p.current page 2).data
    (⌈(p.current.length : ℚ) / (2 : Nat)⌉₊ = 3 ∧ (List.range' 1 3).flatMap read = p.current) ∧
      (read 3 = [⟨[("i", .text "e")]⟩] ∧ read 3 = (p.limit 2 4).current) ∧
      (lastPosition < (lastPosition - 1) * 2 ∧ read lastPosition = []) ∧
      (Dataset.page p.current 1 lastPosition).data = p.current.slice (0 * lastPosition) (1 * lastPosition) ∧
      (Dataset.page p.current 9 0).data = [] := by
  intro rows p read
  obtain ⟨hnone, htile⟩ := pages_tile p (by decide)
  obtain ⟨hcount, -, hlimit, -, hall, hlater⟩ := htile 2 (by decide)
  obtain ⟨-, hslice, -⟩ := htile lastPosition (by decide)
  have hthree : ⌈(p.current.length : ℚ) / (2 : Nat)⌉₊ = 3 := (hcount 1).2.symm.trans (by decide)
  rw [hthree] at hall hlater
  exact ⟨⟨hthree, hall⟩, ⟨by decide, hlimit 3 (by decide)⟩, ⟨by decide, hlater lastPosition (by decide)⟩,
    hslice 1, (hnone 9).1⟩

end RowQuery
