import RecordGrid.Count
import RecordGrid.Schema.Settings

/-!
# Pages

The records of a table cut into pages of one size, the last one possibly
shorter.  Without paging there is one page with all records.

The pages are counted from the sum of the records and those of one page, and the
count overflows where that sum is `2 ^ 64` or more, however few pages it would come
to.  `Paging.countPages` is the count with this fault, and `Paging.fault?` the fault
alone, which ends whatever has asked for the count.  What is total here gives the
count wherever there is one.
-/

namespace RecordGrid

namespace Paging

/-- The number of pages, or the fault that its count ends in. -/
def countPages (p : Paging) (rowCount : Nat) : Except IndexFault Nat :=
  if p.enabled then do
    let sum ← Count.plus rowCount p.pageSize
    let reached ← Count.minus sum 1
    Count.quotient reached p.pageSize
  else .ok 1

def fault? (p : Paging) (rowCount : Nat) : Option IndexFault :=
  match p.countPages rowCount with
  | .ok _ => none
  | .error fault => some fault

/-- The number of pages, where they can be counted. -/
def totalPages (p : Paging) (rowCount : Nat) : Nat := (p.countPages rowCount).toOption.getD 0

def lastPage (p : Paging) (rowCount : Nat) : Nat := p.totalPages rowCount - 1

/-- The page itself, or the last one where it lies beyond. -/
def clampPage (p : Paging) (rowCount page : Nat) : Nat := min page (p.lastPage rowCount)

def pageOf (p : Paging) (index : Nat) : Nat := if p.enabled then index / p.pageSize else 0

/-- The first record on a page, and the one after its last. -/
def visibleRange (p : Paging) (rowCount page : Nat) : Nat × Nat :=
  if p.enabled then
    let start := min (page * p.pageSize) rowCount
    (start, min (start + p.pageSize) rowCount)
  else (0, rowCount)

end Paging

structure PageInfo where
  enabled : Bool
  page : Nat
  totalPages : Nat
  rowsPerPage : Nat
  totalRows : Nat
  start : Nat
  stop : Nat
deriving DecidableEq, Repr

namespace PageInfo

def ofPage (p : Paging) (rowCount page : Nat) : PageInfo where
  enabled := p.enabled
  page := page
  totalPages := p.totalPages rowCount
  rowsPerPage := if p.enabled then p.pageSize else rowCount
  totalRows := rowCount
  start := (p.visibleRange rowCount page).1
  stop := (p.visibleRange rowCount page).2

def hasPrev (i : PageInfo) : Bool := decide (0 < i.page)

/-- Whether there is a page after this one.  The number of that page overflows after
the last that 64 bits hold. -/
def checkNext (i : PageInfo) : Except IndexFault Bool := do
  let next ← Count.plus i.page 1
  .ok (decide (next < i.totalPages))

/-- Whether there is a page after this one, where that can be told. -/
def hasNext (i : PageInfo) : Bool := i.checkNext.toOption.getD false

end PageInfo

end RecordGrid
