import Mathlib.Algebra.Order.Floor.Div
import RecordGrid.Proofs.Layout.Page

/-!
# The number of pages

Wherever the pages can be counted, there are as many as it takes to hold the records,
and none too many.  They can be counted exactly if 64 bits hold the sum of the records
and those of one page.  Else the count overflows, however few pages it would come to.
-/

namespace RecordGrid
namespace Paging

variable {p : Paging} {rowCount : Nat}

theorem countPages_eq (henabled : p.enabled = true) (rowCount : Nat) :
    p.countPages rowCount =
      if rowCount + p.pageSize < 2 ^ 64 then .ok (rowCount ⌈/⌉ p.pageSize)
      else .error (.overflow rowCount p.pageSize) := by
  split
  · rename_i hfits
    rw [countPages_of_fits henabled hfits, Nat.ceilDiv_eq_add_pred_div]
  · rename_i hover
    exact countPages_of_overflow henabled (Nat.not_lt.1 hover)

theorem fits_of_countPages_eq_ok
    (henabled : p.enabled = true) {count : Nat} (hcount : p.countPages rowCount = .ok count) :
    rowCount + p.pageSize < 2 ^ 64 := by
  by_contra hover
  rw [countPages_of_overflow henabled (Nat.not_lt.1 hover)] at hcount
  cases hcount

theorem lastPage_of_countPages_eq_ok
    {count : Nat} (hcount : p.countPages rowCount = .ok count) :
    p.lastPage rowCount = count - 1 := by
  rw [lastPage, totalPages, hcount]
  rfl

theorem pageOf_le_lastPage
    (henabled : p.enabled = true) (hfits : rowCount + p.pageSize < 2 ^ 64)
    {i : Nat} (hi : i < rowCount) : p.pageOf i ≤ p.lastPage rowCount := by
  rw [lastPage_of_fits henabled hfits, pageOf, if_pos henabled]
  exact Nat.div_le_div_right (by omega)

/-- With paging, a count of pages overflows exactly if 64 bits do not hold the sum of the
records and those of a page.  It ends in no other fault, as a page holds some record,
and where it does not overflow it is the number of pages that the records take; then
every record lies on one of them. -/
theorem page_count_exact_iff_fits (henabled : p.enabled = true) (rowCount : Nat) :
    0 < p.pageSize ∧
      p.countPages rowCount =
        (if rowCount + p.pageSize < 2 ^ 64 then .ok (rowCount ⌈/⌉ p.pageSize)
          else .error (.overflow rowCount p.pageSize)) ∧
      ∀ count, p.countPages rowCount = .ok count →
        p.lastPage rowCount = count - 1 ∧ ∀ i < rowCount, p.pageOf i ≤ p.lastPage rowCount := by
  refine ⟨p.pageSize_pos, countPages_eq henabled rowCount, ?_⟩
  intro count hcount
  have hfits := fits_of_countPages_eq_ok henabled hcount
  exact ⟨lastPage_of_countPages_eq_ok hcount, fun i hi => pageOf_le_lastPage henabled hfits hi⟩

/-- The sum of three records and those of a page is the largest that fits. -/
theorem page_count_exact_iff_fits_widest :
    let p : Paging := { enabled := true, rowsPerPage := some 0xFFFFFFFFFFFFFFFC }
    p.enabled = true ∧ p.countPages 3 = .ok (3 ⌈/⌉ p.pageSize) ∧
      p.countPages 4 = .error (.overflow 4 p.pageSize) ∧
      p.countPages 3 = .ok 1 ∧ p.lastPage 3 = 0 ∧ ∀ i < 3, p.pageOf i ≤ p.lastPage 3 := by
  intro p
  obtain ⟨-, hthree, hpages⟩ := page_count_exact_iff_fits (p := p) rfl 3
  obtain ⟨-, hfour, -⟩ := page_count_exact_iff_fits (p := p) rfl 4
  have hone : p.countPages 3 = .ok 1 := by decide
  obtain ⟨hlast, hon⟩ := hpages 1 hone
  exact ⟨rfl, hthree, hfour, hone, hlast, hon⟩

/-- One record needs one page, and so do two, and under the largest page size neither is
counted.  Nor are the pages of as many records as 64 bits can count, two to a page. -/
theorem no_page_for_two_records :
    let widest : Paging := { enabled := true, rowsPerPage := some 0xFFFFFFFFFFFFFFFF }
    let pairs : Paging := { enabled := true, rowsPerPage := some 2 }
    widest.countPages 1 = .error (.overflow 1 0xFFFFFFFFFFFFFFFF) ∧ 1 ⌈/⌉ widest.pageSize = 1 ∧
      widest.countPages 2 = .error (.overflow 2 0xFFFFFFFFFFFFFFFF) ∧
      2 ⌈/⌉ widest.pageSize = 1 ∧
      pairs.countPages 0xFFFFFFFFFFFFFFFF = .error (.overflow 0xFFFFFFFFFFFFFFFF 2) := by
  intro widest pairs
  refine ⟨rfl, ?_, rfl, ?_, rfl⟩
  · rw [Nat.ceilDiv_eq_add_pred_div]
    decide
  · rw [Nat.ceilDiv_eq_add_pred_div]
    decide

end Paging
end RecordGrid
