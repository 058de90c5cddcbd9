import Mathlib.Algebra.Group.Nat.Defs
import RecordGrid.Layout.Page

/-!
# The last page

The pages are counted from a sum that may overflow.  As long as it fits, or the
first page holds every record, the last page is the page of the last record.  A
list never holds `2 ^ 63` records, and below that number one of the two is always
the case.
-/

namespace RecordGrid

namespace Count

variable {n k : Nat}

theorem plus_of_lt (hfits : n + k < 2 ^ 64) : plus n k = .ok (n + k) := if_pos hfits

theorem plus_of_le (hover : 2 ^ 64 ≤ n + k) : plus n k = .error (.overflow n k) :=
  if_neg (Nat.not_lt.2 hover)

theorem minus_of_le (hle : k ≤ n) : minus n k = .ok (n - k) := if_pos hle

theorem quotient_of_pos (hpos : 0 < k) : quotient n k = .ok (n / k) :=
  if_neg (Nat.ne_of_gt hpos)

end Count

namespace Paging

variable {p : Paging}

theorem pageSize_pos (p : Paging) : 0 < p.pageSize := by
  unfold pageSize
  split <;> simp [defaultRowsPerPage]

/-! ## Counting -/

theorem countPages_of_disabled (hdisabled : p.enabled = false) (rowCount : Nat) :
    p.countPages rowCount = .ok 1 := by
  rw [countPages, hdisabled, if_neg Bool.false_ne_true]

/-- The sum is never zero, so that one can be taken away. -/
theorem countPages_of_fits
    (henabled : p.enabled = true) {rowCount : Nat} (hfits : rowCount + p.pageSize < 2 ^ 64) :
    p.countPages rowCount = .ok ((rowCount + p.pageSize - 1) / p.pageSize) := by
  have hsize := p.pageSize_pos
  have hone : 1 ≤ rowCount + p.pageSize := by omega
  rw [countPages, if_pos henabled, Count.plus_of_lt hfits]
  simp only [bind, Except.bind, Count.minus_of_le hone, Count.quotient_of_pos hsize]

theorem countPages_of_overflow
    (henabled : p.enabled = true) {rowCount : Nat} (hover : 2 ^ 64 ≤ rowCount + p.pageSize) :
    p.countPages rowCount = .error (.overflow rowCount p.pageSize) := by
  rw [countPages, if_pos henabled, Count.plus_of_le hover]
  rfl

theorem fault?_eq_none_of_fits
    {rowCount : Nat} (hfits : rowCount + p.pageSize < 2 ^ 64) : p.fault? rowCount = none := by
  unfold fault?
  cases henabled : p.enabled with
  | false => rw [countPages_of_disabled henabled]
  | true => rw [countPages_of_fits henabled hfits]

theorem totalPages_of_disabled (hdisabled : p.enabled = false) (rowCount : Nat) :
    p.totalPages rowCount = 1 := by
  rw [totalPages, countPages_of_disabled hdisabled]
  rfl

theorem totalPages_of_fits
    (henabled : p.enabled = true) {rowCount : Nat} (hfits : rowCount + p.pageSize < 2 ^ 64) :
    p.totalPages rowCount = (rowCount + p.pageSize - 1) / p.pageSize := by
  rw [totalPages, countPages_of_fits henabled hfits]
  rfl

theorem totalPages_of_overflow
    (henabled : p.enabled = true) {rowCount : Nat} (hover : 2 ^ 64 ≤ rowCount + p.pageSize) :
    p.totalPages rowCount = 0 := by
  rw [totalPages, countPages_of_overflow henabled hover]
  rfl

theorem totalPages_lt (p : Paging) (rowCount : Nat) : p.totalPages rowCount < 2 ^ 64 := by
  cases henabled : p.enabled with
  | false =>
      rw [totalPages_of_disabled henabled]
      decide
  | true =>
      by_cases hfits : rowCount + p.pageSize < 2 ^ 64
      · have hquotient := Nat.div_le_self (rowCount + p.pageSize - 1) p.pageSize
        rw [totalPages_of_fits henabled hfits]
        omega
      · rw [totalPages_of_overflow henabled (by omega)]
        decide

/-! ## The last page -/

theorem lastPage_of_disabled
    (hdisabled : p.enabled = false) (rowCount : Nat) :
    p.lastPage rowCount = 0 := by
  rw [lastPage, totalPages_of_disabled hdisabled]

/-- Every record has its page: the sum that counts the pages fits, or one page is
enough. -/
def PagesAll (p : Paging) (rowCount : Nat) : Prop :=
  rowCount ≤ p.pageSize ∨ rowCount + p.pageSize < 2 ^ 64

theorem pagesAll_of_lt (p : Paging) {rowCount : Nat} (hrowCount : rowCount < 2 ^ 63) :
    p.PagesAll rowCount := by
  unfold PagesAll
  omega

theorem PagesAll.of_le
    {fewer more : Nat} (hmore : p.PagesAll more) (hle : fewer ≤ more) : p.PagesAll fewer := by
  unfold PagesAll at *
  omega

theorem lastPage_of_fits
    (henabled : p.enabled = true) {rowCount : Nat} (hfits : rowCount + p.pageSize < 2 ^ 64) :
    p.lastPage rowCount = (rowCount - 1) / p.pageSize := by
  have hsize := p.pageSize_pos
  rw [lastPage, totalPages_of_fits henabled hfits]
  by_cases hnone : rowCount = 0
  · subst hnone
    simp [Nat.div_eq_of_lt (Nat.sub_lt hsize Nat.one_pos)]
  · have hsum : rowCount + p.pageSize - 1 = rowCount - 1 + p.pageSize := by omega
    rw [hsum, Nat.add_div_right _ hsize, Nat.add_sub_cancel]

theorem lastPage_of_enabled
    (henabled : p.enabled = true) {rowCount : Nat} (hall : p.PagesAll rowCount) :
    p.lastPage rowCount = (rowCount - 1) / p.pageSize := by
  by_cases hfits : rowCount + p.pageSize < 2 ^ 64
  · exact lastPage_of_fits henabled hfits
  · -- then one page holds all, and it is the first
    have hone : rowCount ≤ p.pageSize := hall.resolve_right hfits
    have hsize := p.pageSize_pos
    rw [lastPage, totalPages_of_overflow henabled (by omega), Nat.div_eq_of_lt (by omega)]

theorem lastPage_mono
    {fewer more : Nat} (hle : fewer ≤ more) (hmore : p.PagesAll more) :
    p.lastPage fewer ≤ p.lastPage more := by
  cases henabled : p.enabled with
  | false => simp only [lastPage_of_disabled henabled, Nat.le_refl]
  | true =>
      rw [lastPage_of_enabled henabled (hmore.of_le hle), lastPage_of_enabled henabled hmore]
      exact Nat.div_le_div_right (by omega)

/-- The page of a record that was appended is the last one. -/
theorem pageOf_eq_lastPage
    {rowCount : Nat} (hall : p.PagesAll (rowCount + 1)) :
    p.pageOf rowCount = p.lastPage (rowCount + 1) := by
  cases henabled : p.enabled with
  | false => rw [lastPage_of_disabled henabled]; simp [pageOf, henabled]
  | true =>
      rw [lastPage_of_enabled henabled hall]
      simp [pageOf, henabled]

theorem clampPage_le_lastPage
    (rowCount page : Nat) :
    p.clampPage rowCount page ≤ p.lastPage rowCount :=
  Nat.min_le_right _ _

theorem clampPage_of_disabled
    (hdisabled : p.enabled = false) (rowCount page : Nat) :
    p.clampPage rowCount page = 0 := by
  rw [clampPage, lastPage_of_disabled hdisabled, Nat.min_zero]

/-- A window lies among the records. -/
theorem visibleRange_le (p : Paging) (rowCount page : Nat) :
    (p.visibleRange rowCount page).1 ≤ (p.visibleRange rowCount page).2 ∧
      (p.visibleRange rowCount page).2 ≤ rowCount := by
  unfold visibleRange
  split
  · simp only
    omega
  · exact ⟨Nat.zero_le _, Nat.le_refl _⟩

/-- The window of a page holds the records whose page it is.  Without paging the
first page is the only one. -/
theorem mem_visibleRange_iff
    {rowCount page i : Nat} (hoff : p.enabled = false → page = 0) :
    (p.visibleRange rowCount page).1 ≤ i ∧ i < (p.visibleRange rowCount page).2 ↔
      i < rowCount ∧ p.pageOf i = page := by
  cases henabled : p.enabled with
  | false =>
      have hfirst : p.pageOf i = page := by simp [pageOf, henabled, hoff henabled]
      simp [visibleRange, henabled, hfirst]
  | true =>
      have hsize := p.pageSize_pos
      rw [pageOf, henabled, if_pos rfl, Nat.div_eq_iff hsize]
      simp only [visibleRange, henabled, if_true]
      omega

end Paging

theorem PageInfo.checkNext_of_lt {i : PageInfo} (hword : i.page + 1 < 2 ^ 64) :
    i.checkNext = .ok (decide (i.page + 1 < i.totalPages)) := by
  rw [checkNext, Count.plus_of_lt hword]
  rfl

/-- The pager says there is a page after one exactly if it is not the last. -/
theorem PageInfo.hasNext_ofPage_iff
    {p : Paging} {rowCount page : Nat} (hpage : page ≤ p.lastPage rowCount) :
    (ofPage p rowCount page).hasNext = true ↔ page < p.lastPage rowCount := by
  have hcount := p.totalPages_lt rowCount
  unfold Paging.lastPage at *
  have hword : (ofPage p rowCount page).page + 1 < 2 ^ 64 := by
    change page + 1 < 2 ^ 64
    omega
  rw [hasNext, checkNext_of_lt hword]
  change decide (page + 1 < p.totalPages rowCount) = true ↔ _
  rw [decide_eq_true_iff]
  omega

theorem PageInfo.hasPrev_ofPage_iff {p : Paging} {rowCount page : Nat} :
    (ofPage p rowCount page).hasPrev = true ↔ 0 < page :=
  decide_eq_true_iff

end RecordGrid
