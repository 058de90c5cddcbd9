import RecordGrid.Proofs.Grid.TakenBack

/-!
# The grid without one of its records

The selection and the page are kept as positions, and the removal of a record
renumbers those below it.  The selection is renumbered with the records, so what
was selected still is, and the page is brought back only where it has gone.
-/

namespace RecordGrid
namespace Grid

variable {p : Policy} {g : Grid} {index : Nat}

/-- One record has gone, and the others are what they were and selected as they were,
in the same order. -/
structure RecordGone (index : Nat) (before after : Grid) : Prop where
  there : index < before.rowCount
  fewer : after.rowCount + 1 = before.rowCount
  /-- A record is found at its new position. -/
  kept : ∀ j, j ≠ index → after.rows[shiftDown index j]? = before.rows[j]?
  /-- There are no records besides those. -/
  onlyKept : ∀ i < after.rowCount, ∃ j < before.rowCount, j ≠ index ∧ shiftDown index j = i
  ordered : ∀ i j, i ≠ index → j ≠ index → (shiftDown index i < shiftDown index j ↔ i < j)
  selected : ∀ j, j ≠ index →
    (shiftDown index j ∈ after.selectedRows ↔ j ∈ before.selectedRows)
  onlySelected : ∀ i ∈ after.selectedRows,
    ∃ j ∈ before.selectedRows, j ≠ index ∧ shiftDown index j = i
  columns : after.columns = before.columns
  selectedCols : after.selectedCols = before.selectedCols

/-! ## The selection -/

theorem mem_selectedRows_removeRow
    (hchange : (g.removeRow p index).change.isNone = false) {i : Nat} :
    i ∈ (g.removeRow p index).grid.selectedRows ↔
      ∃ j ∈ g.selectedRows, j ≠ index ∧ shiftDown index j = i := by
  rw [(removeRow_of_change hchange).2.2]
  simp only [Transition.ofPositions, List.mem_map, List.mem_filter, decide_eq_true_eq, and_assoc]

/-- A list that has each selected position once, in ascending order, stays one. -/
theorem ascending_selectedRows_removeRow
    (hascending : g.selectedRows.Pairwise (· < ·)) :
    (g.removeRow p index).grid.selectedRows.Pairwise (· < ·) := by
  unfold removeRow
  split
  · have hothers : (g.selectedRows.filter fun i => i ≠ index).Pairwise (· < ·) :=
      hascending.filter _
    refine List.pairwise_map.2 (hothers.imp_of_mem ?_)
    intro i j hi hj hlt
    simp only [List.mem_filter, decide_eq_true_eq] at hi hj
    exact (shiftDown_lt_shiftDown_iff hi.2 hj.2).2 hlt
  · exact hascending

/-! ## The removal -/

theorem recordGone_removeRow (hchange : (g.removeRow p index).change.isNone = false) :
    g.RecordGone index (g.removeRow p index).grid := by
  obtain ⟨hthere, -, heq⟩ := removeRow_of_change hchange
  have hfewer := (rowCount_removeRow hchange).2
  refine
    { there := hthere
      fewer := hfewer.symm
      kept := fun j hj => ?_
      onlyKept := fun i hi => exists_shiftDown_eq hthere (by omega)
      ordered := fun i j hi hj => shiftDown_lt_shiftDown_iff hi hj
      selected := fun j hj => ?_
      onlySelected := fun i hi => (mem_selectedRows_removeRow hchange).1 hi
      columns := by rw [heq, Transition.ofPositions]
      selectedCols := by rw [heq, Transition.ofPositions] }
  · rw [rows_removeRow hchange]
    exact getElem?_eraseIdx_shiftDown g.rows hj
  · rw [mem_selectedRows_removeRow hchange]
    constructor
    · rintro ⟨k, hk, hkept, hsame⟩
      -- no other record has moved to where this one is
      exact (shiftDown_inj hkept hj).1 hsame ▸ hk
    · exact fun hbefore => ⟨j, hbefore, hj, rfl⟩

theorem page_removeRow (hchange : (g.removeRow p index).change.isNone = false) :
    (g.removeRow p index).grid.page =
      min g.page (p.paging.lastPage (g.removeRow p index).grid.rowCount) := by
  have hcount : (g.removeRow p index).grid.rowCount = g.rowCount - 1 := by
    have hfewer := (rowCount_removeRow hchange).2
    omega
  rw [hcount, (removeRow_of_change hchange).2.2, Transition.ofPositions, Paging.clampPage]

/-- After a removal the selection is that of the other records and lies in range, and
the page is another one only where it lay beyond the last page. -/
theorem removeRow_keeps_selection
    (hselected : ∀ i ∈ g.selectedRows, i < g.rowCount)
    (hchange : (g.removeRow p index).change.isNone = false) :
    let after := (g.removeRow p index).grid
    let last := p.paging.lastPage after.rowCount
    g.RecordGone index after ∧
      (∀ i ∈ after.selectedRows, i < after.rowCount) ∧
      (g.selectedRows.Pairwise (· < ·) → after.selectedRows.Pairwise (· < ·)) ∧
      (after.page ≠ g.page ↔ last < g.page) ∧ (after.page ≠ g.page → after.page = last) := by
  intro after last
  have hgone : g.RecordGone index after := recordGone_removeRow hchange
  have hpage : after.page = min g.page last := page_removeRow hchange
  refine ⟨hgone, ?_, fun hascending => ascending_selectedRows_removeRow hascending, ?_, ?_⟩
  · intro i hi
    obtain ⟨j, hj, hkept, rfl⟩ := hgone.onlySelected i hi
    have hless := shiftDown_lt hgone.there (hselected j hj) hkept
    rwa [← hgone.fewer, Nat.add_sub_cancel] at hless
  · omega
  · omega

/-- Of eleven records, five to a page, the eighth goes while the last page shows the
eleventh only. -/
theorem removeRow_keeps_selection_of_two :
    let p : Policy := { paging := { enabled := true, rowsPerPage := some 5 } }
    let g : Grid :=
      { rows := (List.range 11).map fun n => [("n", .int n)], selectedRows := [3, 7, 10], page := 2 }
    let after := (g.removeRow p 7).grid
    (∀ i ∈ g.selectedRows, i < g.rowCount) ∧ (g.removeRow p 7).change.isNone = false ∧
      g.RecordGone 7 after ∧ after.rows[9]? = some [("n", .int 10)] ∧
      after.selectedRows = [3, 9] ∧ after.rowCount = 10 ∧
      (∀ i ∈ after.selectedRows, i < after.rowCount) ∧
      after.selectedRows.Pairwise (· < ·) ∧ p.paging.lastPage after.rowCount < g.page ∧
      after.page = p.paging.lastPage after.rowCount := by
  intro p g after
  have hselected : ∀ i ∈ g.selectedRows, i < g.rowCount := by decide
  have hchange : (g.removeRow p 7).change.isNone = false := by decide
  obtain ⟨hgone, hrange, hascending, hmoves, hlast⟩ :=
    removeRow_keeps_selection hselected hchange
  have hmoved : after.page ≠ g.page := by decide
  exact ⟨hselected, hchange, hgone, rfl, by decide, by decide, hrange,
    hascending (by decide), hmoves.1 hmoved, hlast hmoved⟩

end Grid
end RecordGrid
