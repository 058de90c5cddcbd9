import RecordGrid.Grid.Basic
import RecordGrid.Lookup.Ticket

/-!
# Cells of a grid

What is stored under a field of a record, and what it means that one cell is
written and nothing else.
-/

namespace RecordGrid

namespace Grid

/-- What a cell holds, where it holds anything. -/
def cell? (g : Grid) (t : Target) : Option Json :=
  g.rows[t.row]?.bind fun row => Keyed.get? row t.fieldId

/-- There is a record and a column for the cell. -/
def HasCell (g : Grid) (t : Target) : Prop :=
  t.row < g.rowCount ∧ g.hasColumn t.fieldId = true

/-- One cell has been written, and the grid is as it was otherwise. -/
structure WrittenAt (before after : Grid) (t : Target) (value : Json) : Prop where
  columns : after.columns = before.columns
  rowCount : after.rowCount = before.rowCount
  selectedRows : after.selectedRows = before.selectedRows
  selectedCols : after.selectedCols = before.selectedCols
  page : after.page = before.page
  written : after.cell? t = some value
  others : ∀ u, u ≠ t → after.cell? u = before.cell? u

variable {g : Grid}

theorem lt_of_cell? {t : Target} {value : Json} (hvalue : g.cell? t = some value) :
    t.row < g.rowCount := by
  obtain ⟨row, hrow, -⟩ := Option.bind_eq_some_iff.1 hvalue
  exact (List.getElem?_eq_some_iff.1 hrow).1

@[simp] theorem rowCount_setCell (g : Grid) (row : Nat) (fieldId : String) (value : Json) :
    (g.setCell row fieldId value).rowCount = g.rowCount := by
  simp [setCell, rowCount]

theorem HasCell.setCell
    {t : Target} (hthere : g.HasCell t) (row : Nat) (fieldId : String) (value : Json) :
    (g.setCell row fieldId value).HasCell t := by
  refine ⟨?_, hthere.2⟩
  rw [rowCount_setCell]
  exact hthere.1

theorem hasColumn_of_column?
    {fieldId : String} {c : Column} (hcolumn : g.column? fieldId = some c) :
    g.hasColumn fieldId = true := by
  have hid := List.find?_some hcolumn
  rw [hasColumn, List.any_eq_true]
  exact ⟨c, List.mem_of_find?_eq_some hcolumn, hid⟩

theorem cell?_setCell
    (t u : Target) (value : Json) (hrow : t.row < g.rowCount) :
    (g.setCell t.row t.fieldId value).cell? u =
      if u = t then some value else g.cell? u := by
  obtain ⟨row, fieldId⟩ := t
  obtain ⟨row', fieldId'⟩ := u
  simp only [cell?, setCell, List.getElem?_modify, Target.mk.injEq]
  by_cases hsame : row = row'
  · subst hsame
    have hrecord : g.rows[row]? = some g.rows[row] := List.getElem?_eq_getElem hrow
    simp [hrecord, Keyed.get?_insert]
  · have hother : row' ≠ row := fun h => hsame h.symm
    cases g.rows[row']? <;> simp [hsame, hother]

theorem writtenAt_setCell
    (t : Target) (value : Json) (hrow : t.row < g.rowCount) :
    WrittenAt g (g.setCell t.row t.fieldId value) t value where
  columns := rfl
  rowCount := rowCount_setCell g t.row t.fieldId value
  selectedRows := rfl
  selectedCols := rfl
  page := rfl
  written := by simp [cell?_setCell t t value hrow]
  others := by
    intro u hu
    rw [cell?_setCell t u value hrow, if_neg hu]

end Grid

end RecordGrid
