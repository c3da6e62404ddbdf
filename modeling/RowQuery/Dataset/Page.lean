import RowQuery.Record
/-!
# Limits and pages

A limit keeps a stretch of the records. Pages cut the records into stretches of equal
size, counted from one. Positions are 64 bit numbers; a position beyond the last of
them is read as the last, which no dataset reaches.
-/

namespace RowQuery

/-- The largest position. -/
abbrev lastPosition : Nat := 2 ^ 64 - 1

/-- At most `count` records, from position `offset` on. -/
def Dataset.limit (rs : Dataset) (count offset : Nat) : Dataset := (rs.drop offset).take count

/-- One page of a dataset. -/
structure Page where
  data : Dataset
  /-- Records in all pages. -/
  total : Nat
  /-- Number of pages. -/
  pages : Nat

/-- The position of the first record of a page. Page zero is read as page one. -/
def pageOffset (page perPage : Nat) : Nat := min ((max page 1 - 1) * perPage) lastPosition

/-- Reads one page. There are no pages of size zero. -/
def Dataset.page (rs : Dataset) (page perPage : Nat) : Page :=
  if perPage = 0 then { data := [], total := rs.length, pages := 0 }
  else
    { data := rs.limit perPage (pageOffset page perPage)
      total := rs.length
      pages := (rs.length + perPage - 1) / perPage }

end RowQuery
