import RecordGrid.Proofs.Grid.Edits
import RecordGrid.Proofs.Schema.Columns
import RecordGrid.Proofs.Store.AllGrids

/-!
# Consistent stores

The columns that a document describes have ids of their own.  From there on all
that is done to a grid keeps it consistent, so every grid of a session is.
-/

namespace RecordGrid

theorem Schema.IsRead.columns_nodup
    {schema : Schema} (hschema : schema.IsRead) :
    (schema.columns.map (·.fieldId)).Nodup := by
  obtain ⟨document, hdocument⟩ := hschema
  unfold ofJson at hdocument
  split at hdocument
  · cases hdocument
    simp only [ofConfig, Column.listOfJson]
    split
    · exact Column.listOfItems_nodup _
    · simp
  · cases hdocument

theorem Grid.Consistent.start
    {columns : List Column} (hdistinct : (columns.map (·.fieldId)).Nodup)
    (p : Paging) (rows : List Row) :
    Consistent p { columns, rows } where
  distinct := hdistinct
  rowsSelected := by simp
  colsSelected := by simp
  paged := .first p rfl

/-! ## Every operation keeps a store consistent -/

namespace Store

structure Consistent (s : Store) : Prop where
  grid : s.grid.Consistent s.schema.paging
  history : s.history.All (Grid.Consistent s.schema.paging)

theorem consistent_lasting : Lasting Schema.IsRead Grid.Consistent where
  start := fun hschema rows => Grid.Consistent.start hschema.columns_nodup _ rows
  setCell := Grid.Consistent.setCell
  edit := Grid.Consistent.apply
  reseed := Grid.Consistent.reseed
  toggleRow := fun hg _ _ hafter => hg.toggleRow hafter
  toggleColumn := fun hg _ _ hafter => hg.toggleColumn hafter
  clearSelection := Grid.Consistent.clearSelection
  setPage := Grid.Consistent.setPage

theorem Reachable.consistent {s : Store} (hs : Reachable Schema.IsRead s) : s.Consistent :=
  have hall := consistent_lasting.allGrids hs
  ⟨hall.grid, hall.history⟩

/-- Whatever operations a session makes, ids of columns are distinct, what is
selected is there, and the page is one of the pages, the first where there is
no paging.  That a list in memory is shorter than `2 ^ 63` is what the count of
pages rests on. -/
theorem grid_invariants_of_reachable {s : Store} (hs : Reachable Schema.IsRead s) :
    s.grid.fieldIds.Nodup ∧
      (∀ i ∈ s.grid.selectedRows, i < s.grid.rowCount) ∧
      (∀ id ∈ s.grid.selectedCols, id ∈ s.grid.fieldIds) ∧
      (s.grid.rowCount < 2 ^ 63 → s.grid.page ≤ s.schema.paging.lastPage s.grid.rowCount) ∧
      (s.schema.paging.enabled = false → s.grid.page = 0) := by
  have hgrid := hs.consistent.grid
  exact ⟨hgrid.distinct, hgrid.rowsSelected, hgrid.colsSelected, hgrid.pageWithin, hgrid.pageOff⟩

/-- A store with two records, the second selected and its page turned to. -/
def turned : Store :=
  (ofSchema .builtin .sample).run [.edit .addRow, .toggleRow 1, .toggleColumn "name"]

theorem turned_reachable : Reachable Schema.IsRead turned := by
  refine (Reachable.start .builtin Schema.sample_isRead).run ?_
  simp [Operation.Admitted]

theorem grid_invariants_of_turned :
    turned.grid.selectedRows = [1] ∧ turned.grid.selectedCols = ["name"] ∧
      turned.grid.page = 1 ∧
      turned.grid.fieldIds.Nodup ∧
      (∀ i ∈ turned.grid.selectedRows, i < turned.grid.rowCount) ∧
      (∀ id ∈ turned.grid.selectedCols, id ∈ turned.grid.fieldIds) ∧
      turned.grid.page ≤ turned.schema.paging.lastPage turned.grid.rowCount := by
  obtain ⟨hdistinct, hrows, hcols, hpage, -⟩ := grid_invariants_of_reachable turned_reachable
  have hcount : turned.grid.rowCount < 2 ^ 63 := by
    have htwo : turned.grid.rowCount = 2 := rfl
    rw [htwo]
    decide
  exact ⟨rfl, rfl, rfl, hdistinct, hrows, hcols, hpage hcount⟩

end Store

end RecordGrid
