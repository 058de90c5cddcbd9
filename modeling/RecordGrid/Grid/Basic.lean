import RecordGrid.Ascending
import RecordGrid.Schema.Column

/-!
# Grids

The columns and the records of a table, what is selected in it, and the page
that shows.  A grid is plain data: whoever changes one returns the next.
-/

namespace RecordGrid

structure Grid where
  columns : List Column := []
  rows : List Row := []
  /-- Positions of records, in ascending order. -/
  selectedRows : List Nat := []
  /-- Ids of columns, in ascending order. -/
  selectedCols : List String := []
  page : Nat := 0
deriving BEq

namespace Grid

def column? (g : Grid) (fieldId : String) : Option Column :=
  g.columns.find? fun c => c.fieldId == fieldId

def columnIndex? (g : Grid) (fieldId : String) : Option Nat :=
  g.columns.findIdx? fun c => c.fieldId == fieldId

def hasColumn (g : Grid) (fieldId : String) : Bool :=
  g.columns.any fun c => c.fieldId == fieldId

def rowCount (g : Grid) : Nat := g.rows.length

/-- Selects a record, or no longer selects it; there has to be one. -/
def toggleRow (g : Grid) (index : Nat) : Option Grid :=
  if index < g.rowCount then
    some { g with selectedRows := Ascending.toggle index g.selectedRows }
  else none

/-- Selects a column, or no longer selects it; there has to be one. -/
def toggleColumn (g : Grid) (fieldId : String) : Option Grid :=
  if g.hasColumn fieldId then
    some { g with selectedCols := Ascending.toggle fieldId g.selectedCols }
  else none

def clearSelection (g : Grid) : Grid := { g with selectedRows := [], selectedCols := [] }

/-- The ids of the selected columns, in the order of the columns. -/
def selectedInOrder (g : Grid) : List String :=
  (g.columns.map (·.fieldId)).filter g.selectedCols.contains

def selectedPositions (g : Grid) : List Nat := g.selectedInOrder.filterMap g.columnIndex?

def setCell (g : Grid) (row : Nat) (fieldId : String) (value : Json) : Grid :=
  { g with rows := g.rows.modify row (Keyed.insert fieldId value) }

end Grid

end RecordGrid
