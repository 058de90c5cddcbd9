import RecordGrid.Grid.Transition
import RecordGrid.Schema.Basic

/-!
# Edits of records
-/

namespace RecordGrid

/-- A record with the values of another put into it. -/
def Row.overlay (upper lower : Row) : Row :=
  upper.foldl (fun row m => Keyed.insert m.1 m.2 row) lower

/-- The position of a record after the one at `index` is gone. -/
def shiftDown (index i : Nat) : Nat := if index < i then i - 1 else i

namespace Grid

/-- Appends a record of defaults; with paging, its page is turned to. -/
def addRow (p : Policy) (g : Grid) : Transition :=
  if p.canGrow g.rowCount then
    .ofRows
      { g with
        rows := g.rows ++ [defaultRow g.columns]
        page := if p.paging.enabled then p.paging.pageOf g.rowCount else g.page }
  else .unchanged g

/-- Removes a record; the selection stays with the others. -/
def removeRow (p : Policy) (index : Nat) (g : Grid) : Transition :=
  if index < g.rowCount ∧ p.canShrink g.rowCount then
    .ofPositions
      { g with
        rows := g.rows.eraseIdx index
        selectedRows := (g.selectedRows.filter fun i => i ≠ index).map (shiftDown index)
        page := p.paging.clampPage (g.rowCount - 1) g.page }
  else .unchanged g

/-- Merges two records at the place of the first; where both have a value, that
of the second counts. -/
def mergeRows (p : Policy) (g : Grid) : Transition :=
  if 2 ≤ g.rowCount ∧ p.canShrink g.rowCount then
    let (lower, upper) := mergeTargets g.rowCount g.selectedRows
    .ofPositions
      { g.clearSelection with
        rows := (g.rows.eraseIdx upper).modify lower (Row.overlay (g.rows.getD upper []))
        page := p.paging.clampPage (g.rowCount - 1) g.page }
  else .unchanged g

/-- Repeats a record right below itself. -/
def splitRow (p : Policy) (g : Grid) : Transition :=
  if 1 ≤ g.rowCount ∧ p.canGrow g.rowCount then
    let index := splitTarget g.rowCount g.selectedRows
    .ofPositions
      { g.clearSelection with rows := g.rows.insertIdx (index + 1) (g.rows.getD index []) }
  else .unchanged g

/-- Puts other records in the place of all there are. -/
def reseed (p : Policy) (rows : List Row) (g : Grid) : Transition :=
  .ofPositions
    { g with rows, selectedRows := [], page := p.paging.clampPage rows.length g.page }

end Grid

end RecordGrid
