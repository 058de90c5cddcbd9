import RecordGrid.Proofs.Layout.Page

/-!
# The windows of the pages

With paging, the records that show on the pages are parted among these: laid end to
end the windows list every record once, in order.  Counting the pages, clamping,
cutting out a window and finding the page of a record each have a formula of their
own, and this is what ties them together.
-/

namespace RecordGrid
namespace Paging

variable {p : Paging} {rowCount : Nat}

/-- The positions of the records on a page. -/
def window (p : Paging) (rowCount page : Nat) : List Nat :=
  List.range' (p.visibleRange rowCount page).1
    ((p.visibleRange rowCount page).2 - (p.visibleRange rowCount page).1)

/-- The records are parted among the pages. -/
structure Tiles (p : Paging) (rowCount : Nat) : Prop where
  inOrder :
    (List.range (p.totalPages rowCount)).flatMap (p.window rowCount) = List.range rowCount
  nonempty : ∀ page < p.totalPages rowCount, p.window rowCount page ≠ []
  length_le : ∀ page, (p.window rowCount page).length ≤ p.pageSize
  pageOf_lt : ∀ i < rowCount, p.pageOf i < p.totalPages rowCount
  mem_window_iff : ∀ i < rowCount, ∀ page, i ∈ p.window rowCount page ↔ page = p.pageOf i

theorem window_of_enabled (henabled : p.enabled = true) (rowCount page : Nat) :
    p.window rowCount page =
      List.range' (min (page * p.pageSize) rowCount)
        (min ((page + 1) * p.pageSize) rowCount - min (page * p.pageSize) rowCount) := by
  have hstop : min (min (page * p.pageSize) rowCount + p.pageSize) rowCount =
      min ((page + 1) * p.pageSize) rowCount := by
    rw [Nat.succ_mul]
    omega
  simp only [window, visibleRange, henabled, if_true, hstop]

theorem range_append_range' {start stop : Nat} (hle : start ≤ stop) :
    List.range start ++ List.range' start (stop - start) = List.range stop := by
  obtain ⟨count, rfl⟩ := Nat.exists_eq_add_of_le hle
  rw [Nat.add_sub_cancel_left, List.range_add, List.range'_eq_map_range]

/-- The first so many windows, laid end to end. -/
theorem flatMap_window (henabled : p.enabled = true) (rowCount pages : Nat) :
    (List.range pages).flatMap (p.window rowCount) =
      List.range (min (pages * p.pageSize) rowCount) := by
  induction pages with
  | zero => simp
  | succ pages ih =>
      have hle : min (pages * p.pageSize) rowCount ≤ min ((pages + 1) * p.pageSize) rowCount := by
        rw [Nat.succ_mul]
        omega
      rw [List.range_succ, List.flatMap_append, ih, List.flatMap_singleton,
        window_of_enabled henabled, range_append_range' hle]

theorem mem_window
    (henabled : p.enabled = true) {i page : Nat} :
    i ∈ p.window rowCount page ↔ i < rowCount ∧ p.pageOf i = page := by
  have hrange := (p.visibleRange_le rowCount page).1
  have hoff : p.enabled = false → page = 0 := by simp [henabled]
  rw [← mem_visibleRange_iff hoff, window, List.mem_range'_1, Nat.add_sub_cancel' hrange]

theorem lt_totalPages_iff
    (henabled : p.enabled = true) (hfits : rowCount + p.pageSize < 2 ^ 64) {page : Nat} :
    page < p.totalPages rowCount ↔ page * p.pageSize < rowCount := by
  have hsize := p.pageSize_pos
  rw [totalPages_of_fits henabled hfits, Nat.lt_div_iff_mul_lt hsize]
  omega

theorem tiles_of_fits
    (henabled : p.enabled = true) (hfits : rowCount + p.pageSize < 2 ^ 64) :
    p.Tiles rowCount where
  inOrder := by
    have hall : rowCount ≤ p.totalPages rowCount * p.pageSize := by
      rw [← Nat.not_lt, ← lt_totalPages_iff henabled hfits]
      exact Nat.lt_irrefl _
    rw [flatMap_window henabled, Nat.min_eq_right hall]
  nonempty := by
    intro page hpage hnone
    -- the record that a page begins with is on it
    have hfirst : page * p.pageSize ∈ p.window rowCount page := by
      refine (mem_window henabled).2 ⟨(lt_totalPages_iff henabled hfits).1 hpage, ?_⟩
      rw [pageOf, if_pos henabled, Nat.mul_div_cancel _ p.pageSize_pos]
    rw [hnone] at hfirst
    cases hfirst
  length_le := by
    intro page
    rw [window_of_enabled henabled, List.length_range', Nat.succ_mul]
    omega
  pageOf_lt := by
    intro i hi
    rw [lt_totalPages_iff henabled hfits, pageOf, if_pos henabled]
    exact Nat.lt_of_le_of_lt (Nat.div_mul_le_self i p.pageSize) hi
  mem_window_iff := by
    intro i hi page
    rw [mem_window henabled, and_iff_right hi, eq_comm]

end Paging
end RecordGrid
